import Schemagram.Toml.Document

/-!
# What a statement does

All that a statement can do to a document in the making: when it is taken, and what stands there
afterwards.
-/

namespace Schemagram.Toml

theorem guard_bind_eq_some {Found : Type} {holds : Prop} [Decidable holds]
    {next : Unit → Option Found} {result : Found} :
    (guard holds >>= next) = some result ↔ holds ∧ next () = some result := by
  change (if holds then pure () else failure : Option Unit) >>= next = some result ↔ _
  by_cases isHeld : holds
  · rw [if_pos isHeld, and_iff_right isHeld]
    exact Iff.rfl
  · rw [if_neg isHeld]
    exact iff_of_false (by rintro ⟨⟩) fun both => isHeld both.1

variable {reachesArrays : Bool} {change : Option Toml → Option Toml} {key next : String}
  {rest : Path}
  {members result : Members}

/-- A path of one key leads to what is found under the key. -/
theorem alter_singleton : alter reachesArrays change [key] members = some result ↔
    ∃ value, change (Keyed.get? key members) = some value ∧ Keyed.put key value members =
      result := by
  simp [alter, Option.bind_eq_some_iff]

/-- A longer path leads into what is found under its first key, or into a new table. -/
theorem alter_cons_cons : alter reachesArrays change (key :: next :: rest) members = some result ↔
    ∃ value, (Keyed.get? key members).getD (.table []) = value ∧
      ∃ inner, value.opened? reachesArrays = some inner ∧
        ∃ changed, alter reachesArrays change (next :: rest) inner = some changed ∧
          Keyed.put key (value.withOpened changed) members = result := by
  simp [alter, Option.bind_eq_some_iff]

theorem alter_nil_ne : alter reachesArrays change [] members ≠ some result := by
  rintro ⟨⟩

/-- A value is put where nothing is yet. -/
def putNew (value : Toml) : Option Toml → Option Toml
  | none => some value
  | some _ => none

theorem add?_eq_some {nest after : Nest} {path : Path} {value : Toml} :
    nest.add? reachesArrays path value = some after ↔ nest.isClosed path = false ∧
      ∃ members, alter reachesArrays (putNew value) path nest.members = some members ∧
        ⟨members, if value.isNested then path :: nest.closed else nest.closed⟩ = after := by
  rw [Nest.add?, guard_bind_eq_some, Option.bind_eq_bind, Option.bind_eq_some_iff,
    Bool.not_eq_true']
  simp only [Option.pure_def, Option.some.injEq]
  exact Iff.rfl

namespace Draft

variable {draft after : Draft} {path : Path}

theorem tableHead?_eq_some : draft.tableHead? path = some after ↔
    (draft.nest.isClosed path = false ∧ path ∉ draft.passed ++ draft.declared) ∧
      ∃ members, alter true openTable path draft.nest.members = some members ∧
        ⟨⟨members, draft.nest.closed⟩, path, path :: (draft.passed ++ draft.declared), []⟩ =
          after := by
  rw [tableHead?, guard_bind_eq_some, Option.bind_eq_bind, Option.bind_eq_some_iff,
    Bool.and_eq_true, Bool.not_eq_true', Bool.not_eq_true', List.contains_eq_mem,
    decide_eq_false_iff_not]
  simp only [Option.pure_def, Option.some.injEq]

/-- The paths that lead neither to the end of a path nor beyond it. -/
def outside (path : Path) (paths : List Path) : List Path :=
  paths.filter fun other => !path.isPrefixOf other

theorem mem_outside {other : Path} {paths : List Path} :
    other ∈ outside path paths ↔ other ∈ paths ∧ path.isPrefixOf other = false := by
  simp [outside]

theorem itemHead?_eq_some : draft.itemHead? path = some after ↔
    draft.nest.isClosed path = false ∧ ∃ members, alter true startItem path draft.nest.members =
      some members ∧
      ⟨⟨members, outside path draft.nest.closed⟩, path,
        path :: outside path (draft.passed ++ draft.declared), []⟩ =
        after := by
  rw [itemHead?, guard_bind_eq_some, Option.bind_eq_bind, Option.bind_eq_some_iff,
    Bool.not_eq_true']
  simp only [Option.pure_def, Option.some.injEq]
  exact Iff.rfl

theorem member?_eq_some {value : Toml} : draft.member? path value = some after ↔
    (∀ other ∈ path.way, draft.head ++ other ∉ draft.declared) ∧
      ∃ nest, draft.nest.add? true (draft.head ++ path) value = some nest ∧
        ⟨nest, draft.head, draft.declared, path.way.map (draft.head ++ ·) ++ draft.passed⟩ =
          after := by
  rw [member?, guard_bind_eq_some, Option.bind_eq_bind, Option.bind_eq_some_iff, Bool.not_eq_true',
    List.any_eq_false]
  simp only [Option.pure_def, Option.some.injEq, List.forall_mem_map, List.contains_eq_mem,
    decide_eq_true_eq]

end Draft

end Schemagram.Toml
