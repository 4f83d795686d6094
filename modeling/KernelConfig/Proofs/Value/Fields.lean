import KernelConfig.Value.Fields

/-!
Fields as a map: what each change does to the datum of each key, and that no key comes to stand twice.
-/

set_option autoImplicit false

namespace KernelConfig.Fields

@[simp] theorem get?_nil (key : String) : get? [] key = none := rfl

@[simp] theorem get?_cons (e : String × Datum) (fs : Fields) (key : String) :
    get? (e :: fs) key = if e.1 = key then some e.2 else fs.get? key := by
  by_cases h : e.1 = key <;> simp [get?, h]

theorem get?_append (fs fs' : Fields) (key : String) :
    get? (fs ++ fs') key = (fs.get? key).or (fs'.get? key) := by
  induction fs with
  | nil => rfl
  | cons e fs ih =>
    by_cases h : e.1 = key
    · simp [h]
    · simpa [h] using ih

theorem get?_eq_none_iff {fs : Fields} {key : String} : fs.get? key = none ↔ key ∉ fs.keys := by
  induction fs with
  | nil => simp [keys]
  | cons e fs ih =>
    by_cases h : e.1 = key
    · simp [keys, h]
    · simpa [keys, h, Ne.symm h] using ih

theorem has_eq_isSome (fs : Fields) (key : String) : fs.has key = (fs.get? key).isSome := by
  rw [has, get?, Option.isSome_map, List.isSome_find?]

theorem get?_map_replace (fs : Fields) (key : String) (d : Datum) (key' : String) :
    get? (fs.map fun e => if e.1 = key then (key, d) else e) key' =
      if key = key' then (fs.get? key').map fun _ => d else fs.get? key' := by
  induction fs with
  | nil => simp
  | cons e fs ih =>
    rw [List.map_cons, get?_cons, get?_cons, ih]
    by_cases h : e.1 = key
    · by_cases h' : key = key' <;> simp [h, h']
    · rw [if_neg h]
      by_cases h' : key = key'
      · rw [if_pos h', if_pos h', if_neg (h' ▸ h), if_neg (h' ▸ h)]
      · rw [if_neg h', if_neg h']

/-- A field changes one key. -/
theorem get?_put (fs : Fields) (key : String) (d : Datum) (key' : String) :
    (fs.put key d).get? key' = if key = key' then some d else fs.get? key' := by
  rw [put, has_eq_isSome]
  split
  · rename_i hsome
    rw [get?_map_replace]
    split
    · rename_i h
      rw [← h, Option.map_eq_some_iff]
      exact ⟨_, (Option.some_get hsome).symm, rfl⟩
    · rfl
  · rename_i hnone
    rw [get?_append, get?_cons, get?_nil]
    split
    · rename_i h
      rw [← h, Option.not_isSome_iff_eq_none.mp hnone, Option.none_or]
    · rw [Option.or_none]

theorem get?_putAll_of_not_mem {news : Fields} {key : String} (h : key ∉ news.keys) (fs : Fields) :
    (fs.putAll news).get? key = fs.get? key := by
  induction news generalizing fs with
  | nil => rfl
  | cons e news ih =>
    simp only [keys, List.map_cons, List.mem_cons, not_or] at h
    have hput : (fs.put e.1 e.2).get? key = fs.get? key := by rw [get?_put, if_neg (Ne.symm h.1)]
    exact (ih h.2 _).trans hput

theorem get?_putAll {news : Fields} (hnews : news.keys.Nodup) (fs : Fields) (key : String) :
    (fs.putAll news).get? key = (news.get? key).or (fs.get? key) := by
  induction news generalizing fs with
  | nil => rfl
  | cons e news ih =>
    simp only [keys, List.map_cons, List.nodup_cons] at hnews
    show ((fs.put e.1 e.2).putAll news).get? key = _
    rw [ih hnews.2, get?_cons, get?_put]
    split
    · rename_i h
      rw [← h, get?_eq_none_iff.mpr hnews.1, Option.none_or, Option.some_or]
    · rfl

theorem get?_filter (fs : Fields) (p : String → Bool) (key : String) :
    get? (fs.filter fun e => p e.1) key = if p key then fs.get? key else none := by
  induction fs with
  | nil => simp
  | cons e fs ih =>
    by_cases h : e.1 = key
    · subst h
      cases hp : p e.1 <;> simp [hp, ih]
    · cases hp : p e.1 <;> simp [hp, ih, h]

theorem get?_remove (fs : Fields) (removed : List String) (key : String) :
    (fs.remove removed).get? key = if key ∈ removed then none else fs.get? key := by
  rw [remove, get?_filter fs fun key => !removed.contains key]
  by_cases h : key ∈ removed <;> simp [h]

theorem get?_only (fs : Fields) (kept : List String) (key : String) :
    (fs.only kept).get? key = if key ∈ kept then fs.get? key else none := by
  rw [only, get?_filter fs fun key => kept.contains key]
  by_cases h : key ∈ kept <;> simp [h]

/-! ### Distinct keys -/

theorem nodup_keys_put {fs : Fields} (h : fs.keys.Nodup) (key : String) (d : Datum) :
    (fs.put key d).keys.Nodup := by
  rw [put, has_eq_isSome]
  split
  · have hkeys : keys (fs.map fun e => if e.1 = key then (key, d) else e) = fs.keys := by
      rw [keys, keys, List.map_map]
      refine List.map_congr_left fun e _ => ?_
      by_cases he : e.1 = key <;> simp [he]
    rwa [hkeys]
  · rename_i hnone
    have hkey : key ∉ fs.keys := get?_eq_none_iff.mp (Option.not_isSome_iff_eq_none.mp hnone)
    rw [keys, List.map_append, List.nodup_append]
    refine ⟨h, by simp, ?_⟩
    rintro a ha b hb rfl
    obtain rfl : a = key := by simpa using hb
    exact hkey ha

theorem nodup_keys_putAll {fs : Fields} (h : fs.keys.Nodup) (news : Fields) :
    (fs.putAll news).keys.Nodup := by
  induction news generalizing fs with
  | nil => exact h
  | cons e news ih => exact ih (nodup_keys_put h _ _)

theorem nodup_keys_filter {fs : Fields} (h : fs.keys.Nodup) (p : String × Datum → Bool) :
    (keys (fs.filter p)).Nodup :=
  h.sublist (List.filter_sublist.map _)

end KernelConfig.Fields
