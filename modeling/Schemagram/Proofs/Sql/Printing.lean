import Schemagram.Proofs.Scan.Printing
import Schemagram.Proofs.Sql.Writing

/-!
# A text of every schema

Of the texts that say a schema one can be computed: with bare names, long markers and no white space
where none is needed.
-/

namespace Schemagram.Sql

open Text Writing
open Language (append_mem_mul)

def textInParentheses (name : String) : List Char := ['('] ++ (name.toList ++ [')'])

def keyText (key : ForeignKey) : List Char :=
  "FK".toList ++ (textInParentheses key.column ++ ("REFERENCES".toList ++ ([' '] ++
    (key.referenceTable.toList ++ textInParentheses key.referenceColumn))))

def columnText (column : Column) : List Char :=
  column.name.toList ++ ([' '] ++ (column.type.toList ++
    ((if column.isNullable then [] else [' '] ++ "NOT NULL".toList) ++
      (if column.isPrimaryKey then [' '] ++ "PRIMARY KEY".toList else []))))

def Fragment.text : Fragment → List Char
  | ofKey key => keyText key
  | ofColumn column => columnText column
  | nothing => []

def memberText (member : String) : List Char := '\'' :: member.toList ++ ['\'']

def Statement.text : Statement → List Char
  | ofEnum name members =>
    "CREATE".toList ++ ([' '] ++ ("TYPE".toList ++ ([' '] ++ (name.toList ++ ([' '] ++
      ("AS".toList ++ ([' '] ++ ("ENUM".toList ++ (['('] ++ (join [','] (members.map memberText) ++
        ([')'] ++ [';'])))))))))))
  | ofTable table => "CREATE".toList ++ ([' '] ++ ("TABLE".toList ++ ([' '] ++ (table.name.toList ++
      (['('] ++ (join [','] ((fragmentsOf table).map Fragment.text) ++ ([')'] ++ [';'])))))))

def scriptText (statements : List Statement) : List Char := statements.flatMap Statement.text

/-! ### The text is one of those that say it -/

variable {text : List Char}

theorem toList_mem_writtenName (name : String) : name.toList ∈ writtenName name := by
  rw [writtenName, Language.mem_add, Language.mem_add]
  exact .inl (.inl rfl)

theorem textInParentheses_mem (name : String) :
    textInParentheses name ∈ writtenInParentheses name := by
  have closing := mem_blanks_mul (singleton_mem_mark ')')
  have inner := mem_blanks_mul (append_mem_mul (toList_mem_writtenName name) closing)
  exact mem_blanks_mul (append_mem_mul (singleton_mem_mark '(') inner)

theorem keyText_mem (key : ForeignKey) : keyText key ∈ writtenKey key := by
  have short : "FK".toList ∈ keyword "FOREIGN" * (blank * keyword "KEY") + keyword "FK" :=
    .inr (toList_mem_keyword "FK")
  have target := append_mem_mul (toList_mem_writtenName key.referenceTable)
    (textInParentheses_mem key.referenceColumn)
  have references :=
    append_mem_mul (toList_mem_keyword "REFERENCES") (append_mem_mul space_mem_blank target)
  exact append_mem_mul short
    (append_mem_mul (textInParentheses_mem key.column) (mem_blanks_mul references))

theorem columnText_mem (column : Column) : columnText column ∈ writtenColumn column := by
  have long : ∀ long short : String, [' '] ++ long.toList ∈ writtenMarker long short :=
    fun long _ => append_mem_mul space_mem_blank (.inl (toList_mem_keyword long))
  have notNull : (if column.isNullable then [] else [' '] ++ "NOT NULL".toList) ∈ writtenNotNull
      column := by
    unfold writtenNotNull
    split
    · exact Language.nil_mem_one
    · exact long "NOT NULL" "NN"
  have primaryKey : (if column.isPrimaryKey then [' '] ++ "PRIMARY KEY".toList else []) ∈
      writtenPrimaryKey column := by
    unfold writtenPrimaryKey
    split
    · exact .inl (long "PRIMARY KEY" "PK")
    · exact Language.nil_mem_one
  have typed := append_mem_mul (mem_exactly.2 rfl : column.type.toList ∈ exactly column.type.toList)
    (append_mem_mul notNull primaryKey)
  exact append_mem_mul (toList_mem_writtenName column.name) (append_mem_mul space_mem_blank typed)

theorem Fragment.text_mem {fragment : Fragment} (something : fragment ≠ nothing) :
    fragment.text ∈ fragment.written := by
  cases fragment with
  | ofKey key => exact keyText_mem key
  | ofColumn column => exact columnText_mem column
  | nothing => exact absurd rfl something

/-- A statement that lists something. -/
def Statement.IsFilled : Statement → Prop
  | ofEnum _ members => members ≠ []
  | ofTable table => fragmentsOf table ≠ []

theorem Statement.text_mem {statement : Statement} (isFilled : statement.IsFilled) :
    statement.text ∈ statement.written := by
  have ending := append_mem_mul (singleton_mem_mark ')') (mem_blanks_mul (singleton_mem_mark ';'))
  cases statement with
  | ofEnum name members =>
    have list : join [','] (members.map memberText) ∈ listed (members.map writtenMember) :=
      join_mem_listed isFilled fun _ _ => rfl
    have body := mem_blanks_mul
      (append_mem_mul (singleton_mem_mark '(') (append_mem_mul list ending))
    have typed := append_mem_mul (toList_mem_keyword "AS") (append_mem_mul space_mem_blank
      (append_mem_mul (toList_mem_keyword "ENUM") body))
    have named := append_mem_mul (mem_exactly.2 rfl : name.toList ∈ exactly name.toList)
      (append_mem_mul space_mem_blank typed)
    exact append_mem_mul (toList_mem_keyword "CREATE") (append_mem_mul space_mem_blank
      (append_mem_mul (toList_mem_keyword "TYPE") (append_mem_mul space_mem_blank named)))
  | ofTable table =>
    have list : join [','] ((fragmentsOf table).map Fragment.text) ∈
        listed ((fragmentsOf table).map Fragment.written) := by
      apply join_mem_listed isFilled
      intro fragment mem
      apply Fragment.text_mem
      rintro rfl
      simp [fragmentsOf] at mem
    have body := mem_blanks_mul
      (append_mem_mul (singleton_mem_mark '(') (append_mem_mul list ending))
    have named := append_mem_mul (toList_mem_writtenName table.name) body
    exact append_mem_mul (toList_mem_keyword "CREATE") (append_mem_mul space_mem_blank
      (append_mem_mul (toList_mem_keyword "TABLE") (append_mem_mul space_mem_blank named)))

/-- Every schema can be written. -/
theorem scriptText_mem {statements : List Statement}
    (areFilled : ∀ statement ∈ statements, statement.IsFilled) :
    scriptText statements ∈ script statements := by
  induction statements with
  | nil => exact nil_mem_blanks
  | cons statement more ih =>
    have others := ih fun other mem => areFilled other (List.mem_cons_of_mem _ mem)
    have isFirst := Statement.text_mem (areFilled statement List.mem_cons_self)
    exact mem_blanks_mul (append_mem_mul isFirst others)

end Schemagram.Sql
