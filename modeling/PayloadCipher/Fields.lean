/-! Ordered fields with distinct names. Setting a field that exists keeps its place and changes its
value; setting a new one appends it. -/

namespace PayloadCipher

abbrev Fields (α : Type) := List (String × α)

namespace Fields

variable {α : Type}

def get? : Fields α → String → Option α
  | [], _ => none
  | (n, v) :: rest, name => if n = name then some v else get? rest name

def set (name : String) (value : α) : Fields α → Fields α
  | [] => [(name, value)]
  | (n, v) :: rest => if n = name then (name, value) :: rest else (n, v) :: set name value rest

def merge (fields : Fields α) (new : Fields α) : Fields α :=
  new.foldl (fun acc f => set f.1 f.2 acc) fields

def names (fields : Fields α) : List String := fields.map (·.1)

def erase (fields : Fields α) (name : String) : Fields α := fields.filter (·.1 ≠ name)

@[simp] theorem get?_nil (name : String) : get? ([] : Fields α) name = none := rfl

theorem get?_cons (n name : String) (v : α) (fields : Fields α) :
    get? ((n, v) :: fields) name = if n = name then some v else get? fields name := rfl

@[simp] theorem names_nil : names ([] : Fields α) = [] := rfl

theorem names_cons (n : String) (v : α) (fields : Fields α) :
    names ((n, v) :: fields) = n :: names fields := rfl

theorem names_append (fields more : Fields α) :
    names (fields ++ more) = names fields ++ names more :=
  List.map_append

theorem mem_names_reverse {fields : Fields α} {name : String} :
    name ∈ names fields.reverse ↔ name ∈ names fields := by
  rw [names, List.map_reverse, List.mem_reverse, names]

theorem mem_names_of_mem {fields : Fields α} {f : String × α} (h : f ∈ fields) :
    f.1 ∈ names fields :=
  List.mem_map_of_mem h

theorem get?_set (fields : Fields α) (name other : String) (value : α) :
    get? (set name value fields) other =
      if name = other then some value else get? fields other := by
  induction fields with
  | nil => simp [set, get?_cons]
  | cons f rest ih =>
    obtain ⟨n, v⟩ := f
    by_cases hn : n = name
    · by_cases ho : name = other <;> simp [set, get?_cons, hn, ho]
    · by_cases ho : name = other
      · subst ho
        simp [set, get?_cons, hn, ih]
      · simp [set, get?_cons, hn, ho, ih]

theorem names_set (fields : Fields α) (name : String) (value : α) :
    names (set name value fields) =
      if name ∈ names fields then names fields else names fields ++ [name] := by
  induction fields with
  | nil => simp [set, names]
  | cons f rest ih =>
    obtain ⟨n, v⟩ := f
    simp only [names] at ih ⊢
    by_cases hn : n = name
    · simp [set, hn]
    · have hn' : name ≠ n := fun h => hn h.symm
      by_cases hm : name ∈ rest.map (·.1) <;> simp [set, hn, hn', hm, ih]

theorem nodup_names_set {fields : Fields α} (h : (names fields).Nodup) (name : String)
    (value : α) : (names (set name value fields)).Nodup := by
  rw [names_set]
  split
  case isTrue => exact h
  case isFalse hnew =>
    rw [List.nodup_append]
    refine ⟨h, by simp, ?_⟩
    rintro n hn m hm rfl
    rw [List.mem_singleton.1 hm] at hn
    exact hnew hn

theorem eq_or_mem_of_mem_set {fields : Fields α} {name : String} {value : α} {f : String × α}
    (h : f ∈ set name value fields) : f = (name, value) ∨ f ∈ fields := by
  induction fields with
  | nil => exact .inl (List.mem_singleton.1 h)
  | cons g rest ih =>
    obtain ⟨n, v⟩ := g
    rw [set] at h
    split at h
    · exact (List.mem_cons.1 h).imp_right (List.mem_cons_of_mem _)
    · rcases List.mem_cons.1 h with heq | hrest
      · exact .inr (heq ▸ List.mem_cons_self)
      · exact (ih hrest).imp_right (List.mem_cons_of_mem _)

theorem mem_names_set {fields : Fields α} {name other : String} {value : α} :
    other ∈ names (set name value fields) ↔ other = name ∨ other ∈ names fields := by
  rw [names_set]
  split
  case isTrue hmem =>
    constructor
    · exact .inr
    · rintro (rfl | h)
      · exact hmem
      · exact h
  case isFalse => rw [List.mem_append, List.mem_singleton, or_comm]

theorem set_of_not_mem {fields : Fields α} {name : String} (h : name ∉ names fields) (value : α) :
    set name value fields = fields ++ [(name, value)] := by
  induction fields with
  | nil => rfl
  | cons f rest ih =>
    obtain ⟨n, v⟩ := f
    rw [names_cons, List.mem_cons, not_or] at h
    rw [set, if_neg (Ne.symm h.1), ih h.2, List.cons_append]

theorem mem_of_get?_eq_some {fields : Fields α} {name : String} {v : α}
    (h : get? fields name = some v) : (name, v) ∈ fields := by
  induction fields with
  | nil => cases h
  | cons f rest ih =>
    obtain ⟨n, w⟩ := f
    rw [get?_cons] at h
    split at h
    case isTrue hn =>
      cases h
      rw [hn]
      exact List.mem_cons_self
    case isFalse => exact List.mem_cons_of_mem _ (ih h)

theorem get?_eq_none_iff {fields : Fields α} {name : String} :
    get? fields name = none ↔ name ∉ names fields := by
  induction fields with
  | nil => simp [names]
  | cons f rest ih =>
    obtain ⟨n, v⟩ := f
    rw [get?_cons]
    by_cases hn : n = name
    · simp [names, hn]
    · simp only [names] at ih
      simp [names, hn, ih, Ne.symm hn]

theorem get?_eq_some_iff {fields : Fields α} (h : (names fields).Nodup) {name : String} {v : α} :
    get? fields name = some v ↔ (name, v) ∈ fields := by
  refine ⟨mem_of_get?_eq_some, fun hmem => ?_⟩
  induction fields with
  | nil => cases hmem
  | cons f rest ih =>
    obtain ⟨n, w⟩ := f
    rw [names_cons, List.nodup_cons] at h
    rw [get?_cons]
    rcases List.mem_cons.1 hmem with heq | hrest
    · cases heq
      rw [if_pos rfl]
    · have hne : n ≠ name := by
        rintro rfl
        exact h.1 (mem_names_of_mem hrest)
      rw [if_neg hne]
      exact ih h.2 hrest

theorem get?_append (fields more : Fields α) (name : String) :
    get? (fields ++ more) name = (get? fields name).or (get? more name) := by
  induction fields with
  | nil => rfl
  | cons f rest ih =>
    obtain ⟨n, v⟩ := f
    by_cases hn : n = name <;> simp [get?_cons, hn, ih]

theorem get?_map {β : Type} (g : String → α → β) (fields : Fields α) (name : String) :
    get? (fields.map fun f => (f.1, g f.1 f.2)) name = (get? fields name).map (g name) := by
  induction fields with
  | nil => rfl
  | cons f rest ih =>
    obtain ⟨n, v⟩ := f
    by_cases hn : n = name <;> simp [get?_cons, hn, ih]

theorem map_set {β : Type} (g : String → α → β) (name : String) (value : α) (fields : Fields α) :
    (set name value fields).map (fun f => (f.1, g f.1 f.2)) =
      set name (g name value) (fields.map fun f => (f.1, g f.1 f.2)) := by
  induction fields with
  | nil => rfl
  | cons f rest ih =>
    obtain ⟨n, v⟩ := f
    by_cases hn : n = name <;> simp [set, hn, ih]

theorem get?_filter (p : String → Bool) (fields : Fields α) (name : String) :
    get? (fields.filter fun f => p f.1) name = if p name then get? fields name else none := by
  induction fields with
  | nil => simp
  | cons f rest ih =>
    obtain ⟨n, v⟩ := f
    by_cases hn : n = name
    · subst hn
      by_cases hp : p n <;> simp [get?_cons, hp, ih]
    · by_cases hp : p n <;> simp [get?_cons, hn, hp, ih]

theorem set_of_get? {fields : Fields α} {name : String} {v : α} (h : get? fields name = some v) :
    set name v fields = fields := by
  induction fields with
  | nil => cases h
  | cons f rest ih =>
    obtain ⟨n, w⟩ := f
    rw [get?_cons] at h
    split at h
    case isTrue hn =>
      cases h
      rw [set, if_pos hn, hn]
    case isFalse hn => rw [set, if_neg hn, ih h]

theorem set_eq_map {fields : Fields α} (h : (names fields).Nodup) {name : String}
    (hname : name ∈ names fields) (v : α) :
    set name v fields = fields.map fun f => (f.1, if f.1 = name then v else f.2) := by
  induction fields with
  | nil => cases hname
  | cons f rest ih =>
    obtain ⟨n, w⟩ := f
    rw [names_cons] at h hname
    obtain ⟨hnew, hrest⟩ := List.nodup_cons.1 h
    by_cases hn : n = name
    · have hself : ∀ f ∈ rest, (f.1, if f.1 = name then v else f.2) = id f := by
        intro f hf
        have hne : f.1 ≠ name := by
          rintro rfl
          exact hnew (hn ▸ mem_names_of_mem hf)
        rw [if_neg hne]
        rfl
      rw [set, if_pos hn, List.map_cons, List.map_congr_left hself, List.map_id, hn, if_pos rfl]
    · have hmem : name ∈ names rest := (List.mem_cons.1 hname).resolve_left (Ne.symm hn)
      rw [set, if_neg hn, List.map_cons, if_neg hn, ih hrest hmem]

theorem filter_set (p : String → Bool) (name : String) (v : α) (fields : Fields α) :
    (set name v fields).filter (fun f => p f.1) =
      if p name then set name v (fields.filter fun f => p f.1)
      else fields.filter fun f => p f.1 := by
  induction fields with
  | nil => cases hp : p name <;> simp [set, hp]
  | cons f rest ih =>
    obtain ⟨n, w⟩ := f
    by_cases hn : n = name
    · subst hn
      cases hp : p n <;> simp [set, hp]
    · cases hp : p name <;> cases hq : p n <;> simp [set, hn, hq, ih, hp]

@[simp] theorem merge_nil (fields : Fields α) : merge fields [] = fields := rfl

theorem merge_cons (fields : Fields α) (n : String) (v : α) (new : Fields α) :
    merge fields ((n, v) :: new) = merge (set n v fields) new := rfl

theorem nodup_names_merge {fields : Fields α} (h : (names fields).Nodup) (new : Fields α) :
    (names (merge fields new)).Nodup := by
  induction new generalizing fields with
  | nil => exact h
  | cons f new ih =>
    obtain ⟨n, v⟩ := f
    exact ih (nodup_names_set h n v)

theorem mem_names_merge {fields new : Fields α} {name : String} :
    name ∈ names (merge fields new) ↔ name ∈ names fields ∨ name ∈ names new := by
  induction new generalizing fields with
  | nil => simp [names]
  | cons f new ih =>
    obtain ⟨n, v⟩ := f
    rw [merge_cons, ih, mem_names_set, names_cons, List.mem_cons, or_assoc, or_left_comm]

/-- The last value of a name counts. -/
theorem get?_merge (fields new : Fields α) (name : String) :
    get? (merge fields new) name = (get? new.reverse name).or (get? fields name) := by
  induction new generalizing fields with
  | nil => rfl
  | cons f new ih =>
    obtain ⟨n, v⟩ := f
    rw [merge_cons, ih, get?_set, List.reverse_cons, get?_append, Option.or_assoc]
    by_cases hn : n = name <;> simp [get?_cons, hn]

theorem get?_reverse {fields : Fields α} (h : (names fields).Nodup) (name : String) :
    get? fields.reverse name = get? fields name := by
  have hreverse : (names fields.reverse).Nodup := by
    rw [names, List.map_reverse]
    exact List.pairwise_reverse.2 (h.imp Ne.symm)
  apply Option.ext
  intro v
  rw [get?_eq_some_iff hreverse, get?_eq_some_iff h, List.mem_reverse]

theorem filter_merge (p : String → Bool) (fields new : Fields α) :
    (merge fields new).filter (fun f => p f.1) =
      merge (fields.filter fun f => p f.1) (new.filter fun f => p f.1) := by
  induction new generalizing fields with
  | nil => rfl
  | cons f new ih =>
    obtain ⟨n, v⟩ := f
    rw [merge_cons, ih, filter_set, List.filter_cons]
    cases p n <;> simp [merge_cons]

theorem map_merge {β : Type} (g : String → α → β) (fields new : Fields α) :
    (merge fields new).map (fun f => (f.1, g f.1 f.2)) =
      merge (fields.map fun f => (f.1, g f.1 f.2)) (new.map fun f => (f.1, g f.1 f.2)) := by
  induction new generalizing fields with
  | nil => rfl
  | cons f new ih =>
    obtain ⟨n, v⟩ := f
    rw [merge_cons, ih, map_set, List.map_cons, merge_cons]

theorem merge_eq_append {fields new : Fields α} (h : (names (fields ++ new)).Nodup) :
    merge fields new = fields ++ new := by
  induction new generalizing fields with
  | nil => rw [merge_nil, List.append_nil]
  | cons f new ih =>
    obtain ⟨n, v⟩ := f
    have happ : fields ++ (n, v) :: new = (fields ++ [(n, v)]) ++ new := by simp
    have hnew : n ∉ names fields := by
      intro hn
      rw [names_append, names_cons, List.nodup_append] at h
      exact h.2.2 n hn n List.mem_cons_self rfl
    rw [merge_cons, set_of_not_mem hnew, happ]
    exact ih (happ ▸ h)

end Fields
end PayloadCipher
