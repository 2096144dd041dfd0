/-!
# Keyed lists

A keyed list pairs keys with values in the order in which the keys were first put.  Putting a key
that is there already keeps its place and takes the new value, so that every key occurs once.

The lemmas say what putting a pair does to a look-up and to the keys, and that a list which was made
by putting pairs holds no key twice.
-/

namespace Schemagram.Keyed

variable {Key Value : Type} [DecidableEq Key]

/-- Gives a key a value: in its old place if it has one, at the end if not. -/
def put (key : Key) (value : Value) : List (Key × Value) → List (Key × Value)
  | [] => [(key, value)]
  | (other, old) :: more =>
    if other = key then (key, value) :: more else (other, old) :: put key value more

def get? (key : Key) : List (Key × Value) → Option Value
  | [] => none
  | (other, value) :: more => if other = key then some value else get? key more

/-- The keyed list of pairs in the order in which they are put. -/
def ofPairs (pairs : List (Key × Value)) : List (Key × Value) :=
  pairs.foldl (fun keyed pair => put pair.1 pair.2 keyed) []

def keys (keyed : List (Key × Value)) : List Key := keyed.map Prod.fst

theorem get?_put_self (key : Key) (value : Value) (keyed : List (Key × Value)) :
    get? key (put key value keyed) = some value := by
  induction keyed with
  | nil => simp [put, get?]
  | cons pair more ih =>
    by_cases same : pair.1 = key <;> simp [put, get?, same, ih]

theorem get?_put_of_ne {key other : Key} (different : other ≠ key) (value : Value)
    (keyed : List (Key × Value)) : get? other (put key value keyed) = get? other keyed := by
  induction keyed with
  | nil => simp [put, get?, different.symm]
  | cons pair more ih =>
    by_cases same : pair.1 = key
    · simp [put, get?, same, different.symm]
    · simp [put, get?, same, ih]

theorem keys_put (key : Key) (value : Value) (keyed : List (Key × Value)) :
    keys (put key value keyed) =
      if key ∈ keys keyed then keys keyed else keys keyed ++ [key] := by
  induction keyed with
  | nil => simp [put, keys]
  | cons pair more ih =>
    by_cases same : pair.1 = key
    · simp [put, keys, same]
    · have other : key ≠ pair.1 := fun equal => same equal.symm
      simp only [put, same, if_false, keys, List.map_cons, List.mem_cons, other, false_or] at ih ⊢
      rw [ih]
      split
      · rename_i known
        simp [known]
      · rename_i unknown
        simp [unknown]

/-- Putting a pair changes what is found under its key, and nothing else. -/
theorem get?_put (key other : Key) (value : Value) (keyed : List (Key × Value)) :
    get? other (put key value keyed) = if other = key then some value else get? other keyed := by
  by_cases same : other = key
  · subst same
    simp [get?_put_self]
  · simp [same, get?_put_of_ne same]

/-- Of several pairs with one key the last one counts. -/
theorem get?_ofPairs (key : Key) (pairs : List (Key × Value)) :
    get? key (ofPairs pairs) = (pairs.reverse.find? (·.1 = key)).map Prod.snd := by
  have grown : ∀ (more keyed : List (Key × Value)),
      get? key (more.foldl (fun keyed pair => put pair.1 pair.2 keyed) keyed) =
        ((more.reverse.find? (·.1 = key)).map Prod.snd).or (get? key keyed) := by
    intro more
    induction more with
    | nil => simp
    | cons pair more ih =>
      intro keyed
      rw [List.foldl_cons, ih, get?_put, List.reverse_cons, List.find?_append]
      cases found : more.reverse.find? (·.1 = key) with
      | some last => simp
      | none =>
        by_cases same : pair.1 = key
        · simp [same]
        · simp [same, Ne.symm same]
  simpa [ofPairs, get?] using grown pairs []

/-- A key is known if a pair with it has been put. -/
theorem isSome_get?_ofPairs {key : Key} {pairs : List (Key × Value)} :
    (get? key (ofPairs pairs)).isSome = true ↔ key ∈ keys pairs := by
  simp [get?_ofPairs, keys, List.find?_isSome]

theorem get?_eq_none {key : Key} {keyed : List (Key × Value)} : get? key keyed = none ↔
    key ∉ keys keyed := by
  induction keyed with
  | nil => simp [get?, keys]
  | cons pair more ih =>
    simp only [keys, List.map_cons, List.mem_cons, not_or] at ih ⊢
    by_cases same : pair.1 = key
    · simp [get?, same]
    · rw [get?, if_neg same, ih, and_iff_right (Ne.symm same)]

theorem put_of_not_mem {key : Key} (value : Value) {keyed : List (Key × Value)}
    (unknown : key ∉ keys keyed) : put key value keyed = keyed ++ [(key, value)] := by
  induction keyed with
  | nil => rfl
  | cons pair more ih =>
    simp only [keys, List.map_cons, List.mem_cons, not_or] at unknown ih
    rw [put, if_neg (Ne.symm unknown.1), ih unknown.2]
    rfl

/-- Pairs without a repeated key are put as they are. -/
theorem ofPairs_of_nodup {pairs : List (Key × Value)} (distinct : (keys pairs).Nodup) :
    ofPairs pairs = pairs := by
  have grown : ∀ (more keyed : List (Key × Value)), (keys (keyed ++ more)).Nodup →
      more.foldl (fun keyed pair => put pair.1 pair.2 keyed) keyed = keyed ++ more := by
    intro more
    induction more with
    | nil => simp
    | cons pair more ih =>
      intro keyed distinct
      have unknown : pair.1 ∉ keys keyed := by
        intro known
        rw [keys, List.map_append, List.nodup_append] at distinct
        exact distinct.2.2 pair.1 known pair.1 (by simp) rfl
      rw [List.foldl_cons, put_of_not_mem pair.2 unknown, ih _ (by simpa using distinct)]
      simp
  exact grown pairs [] distinct

theorem nodup_keys_put (key : Key) (value : Value) {keyed : List (Key × Value)}
    (distinct : (keys keyed).Nodup) : (keys (put key value keyed)).Nodup := by
  rw [keys_put]
  split
  · exact distinct
  · rename_i unknown
    rw [List.nodup_append]
    refine ⟨distinct, by simp, ?_⟩
    intro known mem last memLast equal
    rw [List.mem_singleton] at memLast
    exact unknown (memLast ▸ equal ▸ mem)

/-- However often a key is put, it occurs once. -/
theorem nodup_keys_ofPairs (pairs : List (Key × Value)) : (keys (ofPairs pairs)).Nodup := by
  have grown : ∀ (more keyed : List (Key × Value)), (keys keyed).Nodup →
      (keys (more.foldl (fun keyed pair => put pair.1 pair.2 keyed) keyed)).Nodup := by
    intro more
    induction more with
    | nil => exact fun _ distinct => distinct
    | cons pair more ih => exact fun keyed distinct => ih _ (nodup_keys_put pair.1 pair.2 distinct)
  exact grown pairs [] (by simp [keys])

/-- Where no key is repeated, what is found under a key is what stands beside it. -/
theorem get?_eq_some_iff_mem {keyed : List (Key × Value)} (distinct : (keys keyed).Nodup)
    {key : Key} {value : Value} : get? key keyed = some value ↔ (key, value) ∈ keyed := by
  induction keyed with
  | nil => simp [get?]
  | cons pair more ih =>
    rw [keys, List.map_cons, List.nodup_cons] at distinct
    rw [get?, List.mem_cons]
    by_cases same : pair.1 = key
    · subst same
      have unknown : (pair.1, value) ∉ more := fun mem => distinct.1 (List.mem_map.2 ⟨_, mem, rfl⟩)
      simp [Prod.ext_iff, unknown, eq_comm]
    · simp [Prod.ext_iff, same, Ne.symm same, ih distinct.2]

/-- Pairs without a repeated key may be put in any order. -/
theorem get?_ofPairs_perm {pairs others : List (Key × Value)} (perm : pairs.Perm others)
    (distinct : (keys others).Nodup) (key : Key) :
    get? key (ofPairs pairs) = get? key (ofPairs others) := by
  have distinctPairs : (keys pairs).Nodup := (perm.map Prod.fst).nodup_iff.2 distinct
  rw [ofPairs_of_nodup distinctPairs, ofPairs_of_nodup distinct]
  ext value
  rw [get?_eq_some_iff_mem distinctPairs, get?_eq_some_iff_mem distinct, perm.mem_iff]

end Schemagram.Keyed
