import Mathlib.Data.List.Basic
import Mathlib.Data.List.Induction
import Mathlib.Data.List.Nodup
import Schemagram.Keyed

/-!
# What putting pairs leaves

A keyed list that was made by putting pairs tells two things of them: which keys there were, each at
the place where it first appeared, and what was put last under each.  So the keyed list does not
depend on the values that later ones took the place of.
-/

namespace Schemagram.Keyed

variable {Key Value : Type} [DecidableEq Key]

theorem eraseDups_concat (first : List Key) (key : Key) :
    (first ++ [key]).eraseDups = if key ∈ first then first.eraseDups else first.eraseDups ++
    [key] := by
  rw [List.eraseDups_append]
  by_cases known : key ∈ first
  · simp [List.removeAll, known]
  · simp [List.removeAll, known, List.eraseDups_cons]

/-- Keys stand at the places where they were first put. -/
theorem keys_ofPairs (pairs : List (Key × Value)) :
    keys (ofPairs pairs) = (keys pairs).eraseDups := by
  induction pairs using List.reverseRecOn with
  | nil => simp [ofPairs, keys]
  | append_singleton before pair ih =>
    have isPut : ofPairs (before ++ [pair]) = put pair.1 pair.2 (ofPairs before) := by
      simp [ofPairs]
    have isKey : keys (before ++ [pair]) = keys before ++ [pair.1] := by
      simp [keys]
    rw [isPut, isKey, keys_put, ih, eraseDups_concat]
    simp

/-- The pair of a key that has a value. -/
def pair? (value? : Key → Option Value) (key : Key) : Option (Key × Value) :=
  (value? key).map fun value => (key, value)

/-- A keyed list is its keys with what is found under them. -/
theorem filterMap_pair?_keys {keyed : List (Key × Value)} (distinct : (keys keyed).Nodup) :
    (keys keyed).filterMap (pair? fun key => get? key keyed) = keyed := by
  have found : ∀ pair ∈ keyed, pair? (fun key => get? key keyed) pair.1 = some pair := by
    intro pair mem
    simp [pair?, (get?_eq_some_iff_mem distinct).2 mem]
  rw [keys, List.filterMap_map]
  calc keyed.filterMap (fun pair => pair? (fun key => get? key keyed) pair.1)
      = keyed.filterMap some := List.filterMap_congr found
    _ = keyed := List.filterMap_some

/-- Every key once, at its first place and with its last value. -/
def latest (pairs : List (Key × Value)) : List (Key × Value) :=
  (pairs.map Prod.fst).eraseDups.filterMap fun key => pairs.reverse.find? (·.1 = key)

theorem ofPairs_eq_latest (pairs : List (Key × Value)) : ofPairs pairs = latest pairs := by
  have last : ∀ key, pair? (fun key => get? key (ofPairs pairs)) key =
      pairs.reverse.find? (·.1 = key) := by
    intro key
    rw [pair?, get?_ofPairs]
    cases found : pairs.reverse.find? (·.1 = key) with
    | none => rfl
    | some pair =>
      have isKey : pair.1 = key := by simpa using List.find?_some found
      simp [← isKey]
  have whole := filterMap_pair?_keys (nodup_keys_ofPairs pairs)
  rw [keys_ofPairs, funext last] at whole
  exact whole.symm

theorem mem_of_mem_ofPairs {pairs : List (Key × Value)} {pair : Key × Value}
    (mem : pair ∈ ofPairs pairs) :
    pair ∈ pairs := by
  rw [ofPairs_eq_latest] at mem
  rcases List.mem_filterMap.1 mem with ⟨key, _, found⟩
  exact List.mem_reverse.1 (List.mem_of_find?_eq_some found)

theorem put_of_get? {key : Key} {value : Value} {keyed : List (Key × Value)}
    (found : get? key keyed = some value) : put key value keyed = keyed := by
  induction keyed with
  | nil => simp [get?] at found
  | cons pair more ih =>
    by_cases same : pair.1 = key
    · simp only [get?, same, if_true, Option.some.injEq] at found
      simp [put, ← same, ← found]
    · simp only [get?, same, if_false] at found
      simp [put, same, ih found]

theorem put_put (key : Key) (value later : Value) (keyed : List (Key × Value)) :
    put key later (put key value keyed) = put key later keyed := by
  induction keyed with
  | nil => simp [put]
  | cons pair more ih =>
    by_cases same : pair.1 = key
    · simp [put, same]
    · simp [put, same, ih]

/-! ### The order of the pairs -/

theorem get?_eq_of_perm {keyed others : List (Key × Value)} (perm : keyed.Perm others)
    (distinct : (keys keyed).Nodup) (key : Key) : get? key keyed = get? key others := by
  have distinctToo : (keys others).Nodup := (perm.map Prod.fst).nodup_iff.1 distinct
  ext value
  rw [get?_eq_some_iff_mem distinct, get?_eq_some_iff_mem distinctToo, perm.mem_iff]

theorem put_perm (key : Key) (value : Value) {keyed others : List (Key × Value)}
    (perm : keyed.Perm others) (distinct : (keys keyed).Nodup) :
    (put key value keyed).Perm (put key value others) := by
  have distinctToo : (keys others).Nodup := (perm.map Prod.fst).nodup_iff.1 distinct
  have distinctPut := nodup_keys_put key value distinct
  have distinctPutToo := nodup_keys_put key value distinctToo
  refine (List.perm_ext_iff_of_nodup (List.Nodup.of_map Prod.fst distinctPut)
    (List.Nodup.of_map Prod.fst distinctPutToo)).2 ?_
  rintro ⟨other, found⟩
  rw [← get?_eq_some_iff_mem distinctPut, ← get?_eq_some_iff_mem distinctPutToo, get?_put, get?_put,
    get?_eq_of_perm perm distinct]

/-! ### Values that are a matter of their keys -/

variable (value? : Key → Option Value)

theorem get?_filterMap_pair? (all : List Key) (key : Key) :
    get? key (all.filterMap (pair? value?)) = if key ∈ all then value? key else none := by
  induction all with
  | nil => simp [get?]
  | cons first more ih =>
    rw [List.filterMap_cons]
    by_cases same : first = key
    · subst same
      cases known : value? first with
      | none => simp [pair?, known, ih]
      | some value => simp [pair?, known, get?]
    · cases known : value? first with
      | none => simp [pair?, known, ih, Ne.symm same]
      | some value => simp [pair?, known, get?, ih, same, Ne.symm same]

/-- However often such a key is put, its pair stands at its first place. -/
theorem ofPairs_filterMap_pair? (all : List Key) :
    ofPairs (all.filterMap (pair? value?)) = all.eraseDups.filterMap (pair? value?) := by
  induction all using List.reverseRecOn with
  | nil => simp [ofPairs]
  | append_singleton before key ih =>
    rw [eraseDups_concat, List.filterMap_append]
    cases known : value? key with
    | none => split <;> simp [pair?, known, ← ih]
    | some value =>
      have isPut : ofPairs (before.filterMap (pair? value?) ++ [key].filterMap (pair? value?)) =
          put key value (ofPairs (before.filterMap (pair? value?))) := by
        simp [ofPairs, pair?, known]
      have found := get?_filterMap_pair? value? before.eraseDups key
      rw [isPut, ih]
      split
      · rename_i isOld
        apply put_of_get?
        simpa [isOld, known] using found
      · rename_i isNew
        rw [put_of_not_mem, List.filterMap_append]
        · simp [pair?, known]
        · apply get?_eq_none.1
          simpa [isNew] using found

end Schemagram.Keyed
