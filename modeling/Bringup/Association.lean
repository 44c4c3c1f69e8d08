/-!
# Associations in the order of their first insertion

* `Assoc α` : pairs of a key and an `α`;
* `Assoc.put` : gives a key a value, in place if the key is there and at the end if not;
* `Assoc.keys`, `Assoc.holds`.

The value of a key is found by `List.lookup`, which takes the first pair of the key; `lookup_put` and
`lookup_putAll_of_lookup_none` say how it changes.
-/

namespace Bringup

/-- Pairs of a key and a value, in the order in which the keys first came. -/
abbrev Assoc (α : Type) := List (String × α)

namespace Assoc

variable {α : Type}

/-- The keys in their order. -/
def keys (a : Assoc α) : List String := a.map Prod.fst

/-- Whether the key has a value. -/
def holds (key : String) (a : Assoc α) : Bool := (a.lookup key).isSome

/-- Gives the key a value. -/
def put (key : String) (value : α) : Assoc α → Assoc α
  | [] => [(key, value)]
  | (k, v) :: rest => if key == k then (k, value) :: rest else (k, v) :: put key value rest

/-- Gives each key of the first argument its value there. -/
def putAll (news : Assoc α) (a : Assoc α) : Assoc α :=
  news.foldl (fun acc (k, v) => put k v acc) a

/-- Gives each key of the first argument its value there, unless it has one. -/
def putMissing (news : Assoc α) (a : Assoc α) : Assoc α :=
  news.foldl (fun acc (k, v) => if holds k acc then acc else put k v acc) a

theorem mem_of_lookup {key : String} {value : α} {a : Assoc α} (h : a.lookup key = some value) :
    (key, value) ∈ a := by
  obtain ⟨before, after, rfl, -⟩ := List.lookup_eq_some_iff.1 h
  exact List.mem_append_right before List.mem_cons_self

theorem lookup_put_self {key : String} {value : α} {a : Assoc α} :
    (put key value a).lookup key = some value := by
  induction a with
  | nil => simp [put]
  | cons p rest ih =>
    obtain ⟨k, v⟩ := p
    by_cases h : key = k
    · simp [put, h]
    · simp [put, List.lookup_cons, beq_eq_false_iff_ne.2 h, ih]

theorem lookup_put_of_ne {key other : String} {value : α} {a : Assoc α} (h : other ≠ key) :
    (put key value a).lookup other = a.lookup other := by
  induction a with
  | nil => simp [put, List.lookup_cons, beq_eq_false_iff_ne.2 h]
  | cons p rest ih =>
    obtain ⟨k, v⟩ := p
    by_cases hk : key = k
    · subst hk; simp [put, List.lookup_cons, beq_eq_false_iff_ne.2 h]
    · by_cases ho : other = k
      · simp [put, hk, ho]
      · simp [put, hk, List.lookup_cons, beq_eq_false_iff_ne.2 ho, ih]

theorem lookup_put {key other : String} {value : α} {a : Assoc α} :
    (put key value a).lookup other = if other = key then some value else a.lookup other := by
  split
  · rename_i h
    subst h
    exact lookup_put_self
  · rename_i h
    exact lookup_put_of_ne h

/-- Giving a key the value that it has changes nothing. -/
theorem put_of_lookup {key : String} {value : α} {a : Assoc α} (h : a.lookup key = some value) :
    put key value a = a := by
  induction a with
  | nil => cases h
  | cons p rest ih =>
    obtain ⟨k, v⟩ := p
    by_cases hk : key = k
    · subst hk
      obtain rfl : v = value := by simpa using h
      simp [put]
    · have hr : rest.lookup key = some value := by
        simpa [List.lookup_cons, beq_eq_false_iff_ne.2 hk] using h
      simp [put, hk, ih hr]

/-- A new key comes at the end. -/
theorem put_of_lookup_none {key : String} {value : α} {a : Assoc α} (h : a.lookup key = none) :
    put key value a = a ++ [(key, value)] := by
  induction a with
  | nil => rfl
  | cons p rest ih =>
    obtain ⟨k, v⟩ := p
    by_cases hk : key = k
    · subst hk
      simp at h
    · have hr : rest.lookup key = none := by
        simpa only [List.lookup_cons, beq_eq_false_iff_ne.2 hk] using h
      simp [put, hk, ih hr]

/-- Of two values given to one key the second remains. -/
theorem put_put_self {key : String} {v w : α} {a : Assoc α} :
    put key w (put key v a) = put key w a := by
  induction a with
  | nil => simp [put]
  | cons p rest ih =>
    obtain ⟨k, u⟩ := p
    by_cases hk : key = k
    · simp [put, hk]
    · simp [put, hk, ih]

/-- What is done to a pair that a filter leaves out does not show behind it. -/
theorem filter_put_of_not {keep : String → Bool} {key : String} {value : α} {a : Assoc α}
    (h : keep key = false) :
    (put key value a).filter (fun (k, _) => keep k) = a.filter fun (k, _) => keep k := by
  induction a with
  | nil => simp [put, h]
  | cons p rest ih =>
    obtain ⟨k, v⟩ := p
    by_cases hk : key = k
    · subst hk
      simp [put, h]
    · simp only [put, beq_eq_false_iff_ne.2 hk, Bool.false_eq_true, if_false, List.filter_cons, ih]

/-- A pair that is there after a key was given a value is this one or was there before. -/
theorem mem_of_mem_put {key : String} {value : α} {p : String × α} {a : Assoc α} (h : p ∈ put key value a) :
    p = (key, value) ∨ p ∈ a := by
  induction a with
  | nil => exact .inl (List.mem_singleton.1 h)
  | cons q rest ih =>
    obtain ⟨k, v⟩ := q
    rw [put] at h
    split at h
    · rename_i hk
      rcases List.mem_cons.1 h with rfl | hrest
      · exact .inl (by rw [beq_iff_eq.1 hk])
      · exact .inr (List.mem_cons_of_mem _ hrest)
    · rcases List.mem_cons.1 h with rfl | hrest
      · exact .inr List.mem_cons_self
      · exact (ih hrest).imp_right (List.mem_cons_of_mem _)

theorem putAll_append {news more a : Assoc α} :
    putAll (news ++ more) a = putAll more (putAll news a) := List.foldl_append

/-- What is not among the new keys keeps its value. -/
theorem lookup_putAll_of_lookup_none {key : String} {news a : Assoc α}
    (h : news.lookup key = none) : (putAll news a).lookup key = a.lookup key := by
  induction news generalizing a with
  | nil => rfl
  | cons p rest ih =>
    obtain ⟨k, v⟩ := p
    have hk : key ≠ k := by
      rintro rfl
      simp at h
    have hr : rest.lookup key = none := by
      simpa only [List.lookup_cons, beq_eq_false_iff_ne.2 hk] using h
    change (putAll rest (put k v a)).lookup key = _
    rw [ih hr, lookup_put_of_ne hk]

/-- A key has a value after all if it is a new one or had one before. -/
theorem isSome_lookup_putAll (key : String) (news a : Assoc α) :
    ((putAll news a).lookup key).isSome = ((news.lookup key).isSome || (a.lookup key).isSome) := by
  induction news generalizing a with
  | nil => rfl
  | cons p rest ih =>
    obtain ⟨k, v⟩ := p
    change ((putAll rest (put k v a)).lookup key).isSome = _
    rw [ih, lookup_put]
    by_cases hk : key = k
    · subst hk
      simp
    · simp [hk, List.lookup_cons, beq_eq_false_iff_ne.2 hk]

theorem mem_keys_iff {key : String} {a : Assoc α} : key ∈ keys a ↔ (a.lookup key).isSome := by
  rw [keys, List.mem_map, List.lookup_isSome_iff]
  simp only [beq_iff_eq]
  simp only [eq_comm]

/-- A key that is there keeps its place, and a new one comes at the end. -/
theorem keys_put {key : String} {value : α} {a : Assoc α} :
    keys (put key value a) = if key ∈ keys a then keys a else keys a ++ [key] := by
  induction a with
  | nil => rfl
  | cons p rest ih =>
    obtain ⟨k, v⟩ := p
    by_cases hk : key = k
    · simp [put, keys, hk]
    · simp only [keys] at ih
      simp only [put, keys, beq_eq_false_iff_ne.2 hk, List.map_cons, List.mem_cons, hk, false_or,
        Bool.false_eq_true, ↓reduceIte, ih]
      by_cases hmem : key ∈ rest.map Prod.fst <;> simp [hmem]

theorem nodup_keys_put {key : String} {value : α} {a : Assoc α} (h : (keys a).Nodup) :
    (keys (put key value a)).Nodup := by
  rw [keys_put]
  split
  · exact h
  · rename_i hnew
    refine List.nodup_append.2 ⟨h, by simp, fun k hk l hl => ?_⟩
    rw [List.mem_singleton.1 hl]
    rintro rfl
    exact hnew hk

/-- No key comes twice when each is given its value in its turn. -/
theorem nodup_keys_putAll {news a : Assoc α} (h : (keys a).Nodup) :
    (keys (putAll news a)).Nodup := by
  induction news generalizing a with
  | nil => exact h
  | cons p rest ih => exact ih (a := put p.1 p.2 a) (nodup_keys_put h)

/-- New keys of which none comes twice come at the end, with their values. -/
theorem putAll_of_nodup {news a : Assoc α} (h : (keys (a ++ news)).Nodup) :
    putAll news a = a ++ news := by
  induction news generalizing a with
  | nil => exact (List.append_nil a).symm
  | cons p rest ih =>
    obtain ⟨k, v⟩ := p
    have hsplit : a ++ (k, v) :: rest = (a ++ [(k, v)]) ++ rest := by simp
    have hnew : a.lookup k = none := by
      rw [List.lookup_eq_none_iff]
      intro q hq
      rw [keys, List.map_append, List.nodup_append] at h
      simpa using (h.2.2 q.1 (List.mem_map_of_mem hq) k (by simp)).symm
    rw [hsplit] at h ⊢
    rw [← ih h, ← put_of_lookup_none hnew]
    rfl

end Assoc

end Bringup
