/-!
# Query parameters

Parameters have distinct names and are kept in the order of their names, by code points.
-/

namespace StoreAdmin

/-- Puts a parameter into its place; a parameter of the same name is replaced. -/
def Params.place (key value : String) : List (String × String) → List (String × String)
  | [] => [(key, value)]
  | (k, v) :: rest =>
    if key < k then (key, value) :: (k, v) :: rest
    else if key = k then (key, value) :: rest
    else (k, v) :: Params.place key value rest

theorem Params.sorted_nil : ([] : List (String × String)).Pairwise (·.1 < ·.1) :=
  List.Pairwise.nil

/-- The parameters of a request. -/
structure Params where
  fields : List (String × String) := []
  sorted : fields.Pairwise (·.1 < ·.1) := by exact Params.sorted_nil

namespace Params

theorem mem_place {key value : String} {p : String × String} :
    ∀ {fields : List (String × String)},
      p ∈ place key value fields → p = (key, value) ∨ p ∈ fields
  | [], h => by simpa [place] using h
  | (k, v) :: rest, h => by
    rw [place] at h
    split at h
    · simpa using h
    · split at h
      · rcases List.mem_cons.1 h with h | h
        · exact .inl h
        · exact .inr (List.mem_cons_of_mem _ h)
      · rcases List.mem_cons.1 h with h | h
        · exact .inr (h ▸ List.mem_cons_self)
        · rcases mem_place h with h | h
          · exact .inl h
          · exact .inr (List.mem_cons_of_mem _ h)

theorem sorted_place (key value : String) :
    ∀ {fields : List (String × String)},
      fields.Pairwise (·.1 < ·.1) → (place key value fields).Pairwise (·.1 < ·.1)
  | [], _ => by simp [place]
  | (k, v) :: rest, h => by
    have ⟨above, tail⟩ := List.pairwise_cons.1 h
    rw [place]
    split
    · rename_i below
      refine List.pairwise_cons.2 ⟨fun p hp => ?_, h⟩
      rcases List.mem_cons.1 hp with hp | hp
      · exact hp ▸ below
      · exact String.lt_trans below (above p hp)
    · split
      · rename_i same
        exact List.pairwise_cons.2 ⟨fun p hp => same ▸ above p hp, tail⟩
      · rename_i notBelow notSame
        refine List.pairwise_cons.2 ⟨fun p hp => ?_, sorted_place key value tail⟩
        rcases mem_place hp with hp | hp
        · subst hp
          exact Std.lt_of_le_of_ne (Std.not_lt.1 notBelow) fun h => notSame h.symm
        · exact above p hp

/-- The parameters with one more, which replaces one of the same name. -/
def insert (params : Params) (key value : String) : Params :=
  ⟨place key value params.fields, sorted_place key value params.sorted⟩

/-- The parameters with all of `more` put in. -/
def extend (params more : Params) : Params :=
  more.fields.foldl (fun p f => p.insert f.1 f.2) params

/-- The parameters of a list; of two with the same name the later one stays. -/
def ofList (fields : List (String × String)) : Params :=
  fields.foldl (fun p f => p.insert f.1 f.2) {}

end Params
end StoreAdmin
