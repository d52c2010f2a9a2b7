import SchemaTables.Command.Run
import SchemaTables.Proofs.Compilation
import SchemaTables.Proofs.Ddl.Definitions
import SchemaTables.Proofs.Ddl.Tokens

/-!
# Scripts are read back as they were written

Whatever the names and texts of a document hold, a reader cuts the file of a script into exactly the
statements that were written, and finds their names and literals between the quotes.  In the dialect
without escapes this holds of every statement whose defaults are no expressions
(`Statement.fileText_pg_readBack`).  Quotes are doubled alike for both dialects; where a backslash
is an escape, a literal is read back exactly if its backslashes are harmless
(`Migration.literals_mysql`).
-/

namespace SchemaTables

namespace Statement

variable {dialect : Dialect}

/-- What a reader makes of a statement. -/
def scanned (dialect : Dialect) (statement : Statement) : ScannedStatement :=
  ⟨statement.text dialect, statement.tokens dialect⟩

/-- A reader between statements reads one of them as it was written. -/
theorem run_text {statement : Statement} (hraw : statement.HasNoRaw)
    (hkept : dialect.KeepsAll (statement.tokens dialect)) (before : List ScannedStatement) :
    Scan.run dialect { statements := before } (statement.text dialect).toList =
      { statements := before ++ [statement.scanned dialect] } := by
  obtain ⟨front, last, hpieces, htokens, hlast, hplain⟩ := statement.tokenizes dialect hraw hkept
  have hend : last.toList.dropLast ++ [';'] = last.toList :=
    List.dropLast_append_getLast? _ hlast
  have htext : (statement.text dialect).toList =
      printed dialect front ++ (last.toList.dropLast ++ [';']) := by
    rw [toList_statement_text, hpieces, printed_append, hend]
    exact congrArg _ (List.append_nil _)
  obtain ⟨hrests, hsettle⟩ := htokens.found
    (Or.inl rfl : Scan.Rests dialect { statements := before }) fun _ => rfl
  rw [htext, Scan.run_append, hrests.run_semicolon hplain, hsettle, Scan.settle_of_outside rfl]
  have hofList : String.ofList (printed dialect front ++ last.toList.dropLast ++ [';']) =
      statement.text dialect := by
    rw [List.append_assoc, ← htext, String.ofList_toList]
  simp [Scan.add, scanned, ← hofList]

theorem toList_fileText_cons (text : String) {rest : List String} (hne : rest ≠ []) :
    (Command.fileText (text :: rest)).toList =
      text.toList ++ '\n' :: (Command.fileText rest).toList := by
  obtain ⟨next, others, rfl⟩ := List.exists_cons_of_ne_nil hne
  simp [Command.fileText, Text.join, String.toList_append]

theorem run_newline (before : List ScannedStatement) (rest : List Char) :
    Scan.run dialect { statements := before } ('\n' :: rest) =
      Scan.run dialect { statements := before } rest := rfl

theorem run_fileText {statements : List Statement}
    (hraw : ∀ statement ∈ statements, statement.HasNoRaw)
    (hkept : ∀ statement ∈ statements, dialect.KeepsAll (statement.tokens dialect))
    (before : List ScannedStatement) :
    Scan.run dialect { statements := before }
        (Command.fileText (statements.map (text dialect))).toList =
      { statements := before ++ statements.map (scanned dialect) } := by
  induction statements generalizing before with
  | nil => simp [Command.fileText, Text.join, Scan.run, Scan.step, Scan.readOutside]
  | cons statement rest ih =>
      obtain ⟨hstatement, hrest⟩ := List.forall_mem_cons.mp hraw
      obtain ⟨hkeptStatement, hkeptRest⟩ := List.forall_mem_cons.mp hkept
      have hread := run_text hstatement hkeptStatement before
      -- The line break behind a statement belongs to none, whether or not another one follows.
      by_cases hne : rest = []
      · subst hne
        have hfile : (Command.fileText [statement.text dialect]).toList =
            (statement.text dialect).toList ++ ['\n'] := by
          simp [Command.fileText, Text.join, String.toList_append]
        rw [List.map_singleton, hfile, Scan.run_append, hread, run_newline]
        rfl
      · have hmap : rest.map (text dialect) ≠ [] := by simpa using hne
        rw [List.map_cons, toList_fileText_cons _ hmap, Scan.run_append, hread, run_newline,
          ih hrest hkeptRest, List.append_assoc]
        rfl

theorem statements?_fileText {statements : List Statement}
    (hraw : ∀ statement ∈ statements, statement.HasNoRaw)
    (hkept : ∀ statement ∈ statements, dialect.KeepsAll (statement.tokens dialect)) :
    dialect.statements? (Command.fileText (statements.map (text dialect))) =
      some (statements.map (scanned dialect)) := by
  have hrun := run_fileText hraw hkept []
  rw [Dialect.statements?, hrun]
  rfl

theorem statements?_text {statement : Statement} (hraw : statement.HasNoRaw)
    (hkept : dialect.KeepsAll (statement.tokens dialect)) :
    dialect.statements? (statement.text dialect) = some [statement.scanned dialect] := by
  have hrun := run_text hraw hkept []
  rw [Dialect.statements?, hrun]
  rfl

/-- Where a backslash is no escape, the file of any statements without expressions for defaults is
cut into exactly these statements, and each has exactly its names and literals between quotes. -/
theorem fileText_pg_readBack {statements : List Statement}
    (hraw : ∀ statement ∈ statements, statement.HasNoRaw) :
    Dialect.pg.statements? (Command.fileText (statements.map (text .pg))) =
      some (statements.map fun statement => ⟨statement.text .pg, statement.tokens .pg⟩) :=
  statements?_fileText hraw fun _ _ => Dialect.keepsAll_pg _

end Statement

/-- A table and a comment whose names and texts are full of quotes and ends of statements. -/
def quotedStatements : List Statement :=
  [.createTable
      { name := "a\"; drop table \"b"
        columns := [{ name := "';", type := .varchar 7, default := some (.literal "it''s\\';\n--") }]
        checks := [⟨"';", some (.int (-1)), none⟩]
        primaryKey := some "\"\"" },
    .commentOnColumn "a\"; drop table \"b" "';" "';\n';"]

theorem fileText_pg_readBack_quoted :
    (∀ statement ∈ quotedStatements, statement.HasNoRaw) ∧
      Dialect.pg.statements? (Command.fileText (quotedStatements.map (Statement.text .pg))) =
        some (quotedStatements.map fun statement =>
          ⟨statement.text .pg, statement.tokens .pg⟩) := by
  have hraw : ∀ statement ∈ quotedStatements, statement.HasNoRaw := by
    simp [quotedStatements, Statement.HasNoRaw, Statement.defined]
  exact ⟨hraw, Statement.fileText_pg_readBack hraw⟩

/-! ## Scripts of documents -/

namespace Migration

variable {dialect : Dialect} {tables : List Table} {statement : Statement}

theorem mem_defined_up (hstatement : statement ∈ (ofTables dialect tables).up)
    {definition : ColumnDefinition} (hdefinition : definition ∈ statement.defined) :
    (∃ table ∈ tables, ∃ column ∈ table.columns,
        definition = column.definition table.name table.required) ∨
      ∃ reference : Reference, definition = reference.definition := by
  rcases List.mem_append.mp hstatement with hcreation | hconnection
  · obtain ⟨table, htable, hmem⟩ := List.mem_flatMap.mp hcreation
    rw [Table.creation_eq] at hmem
    rcases List.mem_append.mp hmem with htype | hmem
    · obtain ⟨type, -, rfl⟩ := List.mem_map.mp htype
      exact absurd hdefinition List.not_mem_nil
    · rcases List.mem_cons.mp hmem with rfl | hdetail
      · rcases List.mem_append.mp hdefinition with hcolumn | hreference
        · obtain ⟨column, hmem, rfl⟩ := List.mem_map.mp hcolumn
          exact Or.inl ⟨table, htable, column, hmem, rfl⟩
        · split at hreference
          · obtain ⟨reference, -, rfl⟩ := List.mem_map.mp hreference
            exact Or.inr ⟨reference, rfl⟩
          · exact absurd hreference List.not_mem_nil
      · rcases Table.mem_details hdetail with ⟨_, -, _, rfl⟩ | ⟨_, -, rfl⟩ | ⟨_, -, rfl⟩
        all_goals exact absurd hdefinition List.not_mem_nil
  · obtain ⟨table, htable, hmem⟩ := List.mem_flatMap.mp hconnection
    rcases List.mem_append.mp hmem with hadded | hconstraint
    · obtain ⟨rfl, -⟩ := Table.mem_addedColumns hadded
      obtain ⟨reference, -, rfl⟩ := List.mem_map.mp hdefinition
      exact Or.inr ⟨reference, rfl⟩
    · obtain ⟨reference, -, hconstraint⟩ := List.mem_flatMap.mp hconstraint
      rcases Table.mem_constraints hconstraint with rfl | rfl
      all_goals exact absurd hdefinition List.not_mem_nil

theorem hasNoRaw_up
    (hraw : ∀ table ∈ tables, ∀ column ∈ table.columns,
      ∀ expression, column.initial? ≠ some (.raw expression))
    (hstatement : statement ∈ (ofTables dialect tables).up) : statement.HasNoRaw := by
  intro definition hdefinition expression
  rcases mem_defined_up hstatement hdefinition with
    ⟨table, htable, column, hcolumn, rfl⟩ | ⟨reference, rfl⟩
  · exact hraw table htable column hcolumn expression
  · intro hdefault
    cases hdefault

/-- What removes tables and types has no literals and defines no columns. -/
theorem mem_down (hstatement : statement ∈ (ofTables dialect tables).down) :
    statement.HasNoRaw ∧ dialect.KeepsAll (statement.tokens dialect) := by
  obtain ⟨table, -, hmem⟩ := List.mem_flatMap.mp hstatement
  have hname : ∀ name : String, dialect.KeepsAll [.name name] := by
    intro name text htext
    cases List.mem_singleton.mp htext
  rcases List.mem_cons.mp hmem with rfl | htype
  · exact ⟨fun _ h => absurd h List.not_mem_nil, hname _⟩
  · obtain ⟨type, -, rfl⟩ := List.mem_map.mp htype
    exact ⟨fun _ h => absurd h List.not_mem_nil, hname _⟩

end Migration

/-- In a script with escapes, a literal is read back as one token that denotes its text exactly if
its backslashes are harmless.  A statement whose literals are all of this kind is read as the one
statement that it is; what removes the tables always is. -/
theorem compile_mysql_readBack {document : Json} {tables : List Table}
    (htables : compileTables document = .ok tables)
    (hraw : ∀ table ∈ tables, ∀ column ∈ table.columns,
      ∀ expression, column.initial? ≠ some (.raw expression)) :
    compile .mysql document = .ok ((Migration.ofTables .mysql tables).script .mysql) ∧
      (∀ statement ∈ (Migration.ofTables .mysql tables).up,
        (∀ text, .literal text ∈ statement.tokens .mysql →
          (Dialect.mysql.tokens? (Piece.text .mysql (.literal text)) = some [.literal text] ↔
            isHarmless text.toList = true)) ∧
        ((∀ text, .literal text ∈ statement.tokens .mysql → isHarmless text.toList = true) →
          Dialect.mysql.statements? (statement.text .mysql) =
            some [⟨statement.text .mysql, statement.tokens .mysql⟩])) ∧
      ∀ statement ∈ (Migration.ofTables .mysql tables).down,
        Dialect.mysql.statements? (statement.text .mysql) =
          some [⟨statement.text .mysql, statement.tokens .mysql⟩] := by
  refine ⟨compile_of_compileTables htables, ?_, ?_⟩
  · intro statement hstatement
    constructor
    · intro text _
      have hiff := Dialect.mysql.tokens?_literal_iff text
      rwa [Dialect.Keeps, forall_prop_of_true (by decide)] at hiff
    · intro hharmless
      exact Statement.statements?_text (Migration.hasNoRaw_up hraw hstatement)
        fun text htext _ => hharmless text htext
  · intro statement hstatement
    obtain ⟨hnone, hkept⟩ := Migration.mem_down hstatement
    exact Statement.statements?_text hnone hkept

/-- Drives whose title is a path. -/
def driveDocument (title : String) : Json :=
  .object
    [("type", .string "object"),
      ("properties", .object
        [("drives", .object
          [("type", .string "object"),
            ("properties", .object
              [("name", .object
                [("type", .string "string"), ("title", .string title)])])])])]

def driveTable (title : String) : Table :=
  { name := "drives", columns := [⟨"name", .string, { title := some title }⟩] }

theorem compileTables_driveDocument (title : String) :
    compileTables (driveDocument title) = .ok [driveTable title] := rfl

/-- A backslash in front of a sign of patterns is kept, and so is a quote. -/
theorem compile_mysql_readBack_percent :
    (∀ table ∈ [driveTable "it's 50\\%"], ∀ column ∈ table.columns,
        ∀ expression, column.initial? ≠ some (.raw expression)) ∧
      Dialect.mysql.statements?
          "create table `drives` (`name` varchar(255) comment 'it''s 50\\%');" =
        some [⟨"create table `drives` (`name` varchar(255) comment 'it''s 50\\%');",
          [.name "drives", .name "name", .literal "it's 50\\%"]⟩] := by
  have hraw : ∀ table ∈ [driveTable "it's 50\\%"], ∀ column ∈ table.columns,
      ∀ expression, column.initial? ≠ some (.raw expression) := by
    simp [driveTable, Column.initial?, nonEmpty?]
  obtain ⟨-, hup, -⟩ :=
    compile_mysql_readBack (compileTables_driveDocument "it's 50\\%") hraw
  refine ⟨hraw, (hup _ List.mem_cons_self).2 ?_⟩
  intro text htext
  have htext : Token.literal text ∈
      [.name "drives", .name "name", .literal "it's 50\\%"] := htext
  obtain rfl : text = "it's 50\\%" := by simpa using htext
  decide

/-- A backslash at the end of a title takes the quote that should close the comment, and with it the
end of the statement. -/
theorem compile_mysql_loses_end :
    compile .mysql (driveDocument "C:\\") =
        .ok ⟨["create table `drives` (`name` varchar(255) comment 'C:\\');"],
          ["drop table if exists `drives` cascade;"]⟩ ∧
      Dialect.mysql.tokens? "'C:\\'" = none ∧
      Dialect.mysql.statements?
        "create table `drives` (`name` varchar(255) comment 'C:\\');" = none :=
  ⟨compile_of_compileTables (compileTables_driveDocument _), by decide, by decide⟩

end SchemaTables
