/-!
# Ordered lists with one entry per key

Columns of a record, members of a JSON object, joins of a query and the fields
of a result row share one rule: a key that is written again keeps the place of
its first writing and takes the value of its last. `put` is that rule, and
`ofList` folds it over a sequence of writings.
-/

namespace SqlChain.Keyed

variable {κ ν : Type} [DecidableEq κ]

/-- Replace the value of `k` where it stands, or append the pair. -/
def put : List (κ × ν) → κ → ν → List (κ × ν)
  | [], k, v => [(k, v)]
  | (k', v') :: rest, k, v => if k' = k then (k, v) :: rest else (k', v') :: put rest k v

/-- The value under `k`, if there is one. -/
def get? : List (κ × ν) → κ → Option ν
  | [], _ => none
  | (k', v') :: rest, k => if k' = k then some v' else get? rest k

/-- The keys, in order. -/
def keys (entries : List (κ × ν)) : List κ := entries.map Prod.fst

/-- The values, in the order of their keys. -/
def values (entries : List (κ × ν)) : List ν := entries.map Prod.snd

/-- Write the pairs one after another into an empty list. -/
def ofList (pairs : List (κ × ν)) : List (κ × ν) :=
  pairs.foldl (fun entries p => put entries p.1 p.2) []

theorem ofList_concat (pairs : List (κ × ν)) (p : κ × ν) :
    ofList (pairs ++ [p]) = put (ofList pairs) p.1 p.2 := by
  rw [ofList, ofList, List.foldl_append]
  rfl

theorem keys_put_of_mem {entries : List (κ × ν)} {k : κ} (v : ν) (h : k ∈ keys entries) :
    keys (put entries k v) = keys entries := by
  induction entries with
  | nil => simp [keys] at h
  | cons e rest ih =>
      by_cases he : e.1 = k
      · simp [put, keys, he]
      · have hr : k ∈ keys rest := by
          simp only [keys, List.map_cons, List.mem_cons] at h
          exact h.resolve_left (fun hk => he hk.symm)
        simpa [put, keys, he] using ih hr

theorem put_of_not_mem {entries : List (κ × ν)} {k : κ} (v : ν) (h : k ∉ keys entries) :
    put entries k v = entries ++ [(k, v)] := by
  induction entries with
  | nil => rfl
  | cons e rest ih =>
      simp only [keys, List.map_cons, List.mem_cons, not_or] at h
      simp [put, Ne.symm h.1, ih h.2]

theorem nodup_keys_put {entries : List (κ × ν)} (k : κ) (v : ν) (h : (keys entries).Nodup) :
    (keys (put entries k v)).Nodup := by
  by_cases hk : k ∈ keys entries
  · rw [keys_put_of_mem v hk]
    exact h
  · rw [put_of_not_mem v hk, keys, List.map_append]
    refine List.nodup_append.mpr ⟨h, List.pairwise_singleton _ k, ?_⟩
    rintro k' hmem _ hlast rfl
    cases List.mem_singleton.mp hlast
    exact hk hmem

theorem map_put {μ : Type} (f : ν → μ) (entries : List (κ × ν)) (k : κ) (v : ν) :
    (put entries k v).map (Prod.map id f) = put (entries.map (Prod.map id f)) k (f v) := by
  induction entries with
  | nil => rfl
  | cons e rest ih =>
      obtain ⟨k', v'⟩ := e
      by_cases he : k' = k
      · simp [put, he]
      · simp [put, he, ih]

theorem map_ofList {μ : Type} (f : ν → μ) (pairs : List (κ × ν)) :
    (ofList pairs).map (Prod.map id f) = ofList (pairs.map (Prod.map id f)) := by
  rw [ofList, ofList, List.foldl_map]
  exact (List.foldl_hom (List.map (Prod.map id f)) fun entries p =>
    (map_put f entries p.1 p.2).symm).symm

end SqlChain.Keyed
