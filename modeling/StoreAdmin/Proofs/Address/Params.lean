import StoreAdmin.Client.Params

/-!
# Parameters by their names

Every name stands once among parameters, so they are known by what is found under
each name.  After some writes this is what was written there last.
-/

namespace StoreAdmin.Params

theorem lookup_cons_eq (key value name : String) (fields : List (String × String)) :
    ((key, value) :: fields).lookup name =
      if name = key then some value else fields.lookup name := by
  rw [List.lookup_cons]
  by_cases hname : name = key
  · rw [if_pos hname, beq_iff_eq.2 hname]
  · rw [if_neg hname, beq_eq_false_iff_ne.2 hname]

/-- What was last written under a name. -/
def latest (writes : List (String × String)) (name : String) : Option String :=
  writes.reverse.lookup name

@[simp]
theorem latest_nil (name : String) : latest [] name = none := rfl

theorem latest_cons (key value name : String) (writes : List (String × String)) :
    latest ((key, value) :: writes) name =
      (latest writes name).or (if name = key then some value else none) := by
  rw [latest, List.reverse_cons, List.lookup_append, lookup_cons_eq]
  rfl

/-! ## Lookups -/

theorem lookup_place (key value name : String) (fields : List (String × String)) :
    (place key value fields).lookup name =
      if name = key then some value else fields.lookup name := by
  induction fields with
  | nil => exact lookup_cons_eq key value name []
  | cons field rest ih =>
      obtain ⟨k, v⟩ := field
      rw [place]
      split
      · exact lookup_cons_eq key value name _
      split
      · next hsame =>
          subst hsame
          rw [lookup_cons_eq, lookup_cons_eq]
          split <;> rfl
      · next hother =>
          rw [lookup_cons_eq, lookup_cons_eq, ih]
          split
          · next hname => rw [if_neg fun hkey => hother (hkey.symm.trans hname)]
          · rfl

theorem lookup_insert (params : Params) (key value name : String) :
    (params.insert key value).fields.lookup name =
      if name = key then some value else params.fields.lookup name :=
  lookup_place key value name params.fields

/-- After some writes, the last one under a name is found there. -/
theorem lookup_foldl_insert (writes : List (String × String)) (params : Params) (name : String) :
    (writes.foldl (fun p f => p.insert f.1 f.2) params).fields.lookup name =
      (latest writes name).or (params.fields.lookup name) := by
  induction writes generalizing params with
  | nil => rfl
  | cons write writes ih =>
      rw [List.foldl_cons, ih, lookup_insert, latest_cons, Option.or_assoc]
      congr 1
      split <;> rfl

theorem mem_iff_lookup {fields : List (String × String)} (hsorted : fields.Pairwise (·.1 < ·.1))
    (key value : String) : (key, value) ∈ fields ↔ fields.lookup key = some value := by
  induction fields with
  | nil => simp
  | cons field rest ih =>
      obtain ⟨k, v⟩ := field
      obtain ⟨habove, htail⟩ := List.pairwise_cons.1 hsorted
      rw [List.mem_cons, ih htail, lookup_cons_eq]
      by_cases hkey : key = k
      · subst hkey
        have hnone : rest.lookup key ≠ some value := fun hfound =>
          String.lt_irrefl key (habove (key, value) ((ih htail).2 hfound))
        simp [hnone, eq_comm]
      · simp [hkey]

/-! ## All parameters at once -/

theorem place_of_above {key value : String} {fields : List (String × String)}
    (habove : ∀ f ∈ fields, f.1 < key) : place key value fields = fields ++ [(key, value)] := by
  induction fields with
  | nil => rfl
  | cons field rest ih =>
      obtain ⟨k, v⟩ := field
      have hbelow : k < key := habove (k, v) List.mem_cons_self
      have hnot : ¬key < k := String.lt_asymm hbelow
      have hne : key ≠ k := fun heq => String.lt_irrefl k (heq ▸ hbelow)
      rw [place, if_neg hnot, if_neg hne, ih fun f hf => habove f (List.mem_cons_of_mem _ hf),
        List.cons_append]

theorem fields_foldl_insert (params : Params) (more : List (String × String))
    (hsorted : (params.fields ++ more).Pairwise (·.1 < ·.1)) :
    (more.foldl (fun p f => p.insert f.1 f.2) params).fields = params.fields ++ more := by
  induction more generalizing params with
  | nil => exact (List.append_nil _).symm
  | cons field more ih =>
      have habove : ∀ f ∈ params.fields, f.1 < field.1 := fun f hf =>
        (List.pairwise_append.1 hsorted).2.2 f hf field List.mem_cons_self
      have hinsert : (params.insert field.1 field.2).fields = params.fields ++ [field] :=
        place_of_above habove
      rw [List.foldl_cons, ih, hinsert, List.append_assoc, List.singleton_append]
      rwa [hinsert, List.append_assoc, List.singleton_append]

/-- Parameters that are added to none are kept as they are. -/
theorem fields_extend_of_nil {params : Params} (hnil : params.fields = []) (more : Params) :
    (params.extend more).fields = more.fields := by
  have hfields := fields_foldl_insert params more.fields
    (by rw [hnil]; exact more.sorted)
  rwa [hnil, List.nil_append] at hfields

end StoreAdmin.Params
