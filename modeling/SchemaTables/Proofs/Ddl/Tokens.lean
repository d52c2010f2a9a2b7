import Mathlib.Data.List.Forall2
import SchemaTables.Proofs.Ddl.Backslash
import SchemaTables.Proofs.Decimal.Numerals

/-!
# The tokens of statements

The names and literals of a statement, in the order in which it is written, are stated here apart
from the words between them (`Statement.tokens`).  A reader finds them in its text
(`Statement.tokenizes`): the words never hold a quote or the end of a statement, no two tokens stand
next to each other, and every literal is read back as it is where the dialect keeps it.
-/

namespace SchemaTables

/-! ## What a statement names and says -/

def ColumnType.tokens : Dialect → ColumnType → List Token
  | .pg, .enumeration name _ => [.name name]
  | .mysql, .enumeration _ values => values.map .literal
  | _, _ => []

/-- An expression that stands as it is belongs to no token. -/
def Default.tokens : Default → List Token
  | .literal text => [.literal text]
  | .raw _ => []

namespace ColumnDefinition

def commentTokens (dialect : Dialect) (column : ColumnDefinition) : List Token :=
  if dialect.hasInlineComments then (column.comment.map Token.literal).toList else []

def tokens (dialect : Dialect) (column : ColumnDefinition) : List Token :=
  .name column.name :: column.type.tokens dialect ++ (column.default.map Default.tokens).getD [] ++
    column.commentTokens dialect

end ColumnDefinition

/-- The constraint of a range names its column with every bound. -/
def Check.tokens (table : String) (check : Check) : List Token :=
  .name (constraintName table check.column "check") ::
    ((check.minimum.map fun _ => Token.name check.column).toList ++
      (check.maximum.map fun _ => Token.name check.column).toList)

def keyTokens (table key : String) : List Token := [.name (keyName table), .name key]

def TableDefinition.tokens (dialect : Dialect) (table : TableDefinition) : List Token :=
  .name table.name :: (table.columns.flatMap (ColumnDefinition.tokens dialect) ++
    table.checks.flatMap (Check.tokens table.name) ++
    (table.primaryKey.map (keyTokens table.name)).getD [])

namespace Statement

/-- The names and literals of a statement. -/
def tokens (dialect : Dialect) : Statement → List Token
  | .createEnumType name values => .name name :: values.map .literal
  | .createTable table => table.tokens dialect
  | .commentOnColumn table column comment => [.name table, .name column, .literal comment]
  | .createIndex table column =>
    [.name (constraintName table column "index"), .name table, .name column]
  | .addUnique table column =>
    [.name table, .name (constraintName table column "unique"), .name column]
  | .addColumns table columns =>
    .name table :: columns.flatMap (ColumnDefinition.tokens dialect)
  | .addForeignKey table column targetTable targetColumn =>
    [.name table, .name (constraintName table column "foreign"), .name column, .name targetTable,
      .name targetColumn]
  | .dropTable name => [.name name]
  | .dropType name => [.name name]

/-- The columns that a statement defines. -/
def defined : Statement → List ColumnDefinition
  | .createTable table => table.columns
  | .addColumns _ columns => columns
  | _ => []

/-- No column gets an expression for its default. -/
def HasNoRaw (statement : Statement) : Prop :=
  ∀ column ∈ statement.defined, ∀ expression, column.default ≠ some (.raw expression)

end Statement

/-- Every literal among tokens is read back as it is. -/
def Dialect.KeepsAll (dialect : Dialect) (tokens : List Token) : Prop :=
  ∀ text, .literal text ∈ tokens → dialect.Keeps text

namespace Dialect

variable {dialect : Dialect}

theorem keepsAll_append {first second : List Token} :
    dialect.KeepsAll (first ++ second) ↔ dialect.KeepsAll first ∧ dialect.KeepsAll second := by
  constructor
  · intro h
    exact ⟨fun text hmem => h text (List.mem_append_left _ hmem),
      fun text hmem => h text (List.mem_append_right _ hmem)⟩
  · rintro ⟨hfirst, hsecond⟩ text hmem
    exact (List.mem_append.mp hmem).elim (hfirst text) (hsecond text)

theorem KeepsAll.of_subset {first second : List Token} (h : dialect.KeepsAll second)
    (hsubset : first ⊆ second) : dialect.KeepsAll first :=
  fun text hmem => h text (hsubset hmem)

theorem KeepsAll.of_mem {α : Type} {tokens : α → List Token} {parts : List α}
    (h : dialect.KeepsAll (parts.flatMap tokens)) {part : α} (hpart : part ∈ parts) :
    dialect.KeepsAll (tokens part) :=
  fun text hmem => h text (List.mem_flatMap.mpr ⟨part, hpart, hmem⟩)

theorem keepsAll_map_literal {texts : List String} (h : dialect.KeepsAll (texts.map .literal))
    {text : String} (htext : text ∈ texts) : dialect.Keeps text :=
  h text (List.mem_map_of_mem htext)

theorem keepsAll_pg (tokens : List Token) : Dialect.pg.KeepsAll tokens := by
  intro text _ hescapes
  exact absurd hescapes (by decide)

end Dialect

/-! ## Pieces as tokens -/

def printed (dialect : Dialect) (pieces : List Piece) : List Char :=
  pieces.flatMap fun piece => (piece.text dialect).toList

/-- A reader finds the tokens in the pieces.  The flag says whether a token may stand at the start,
where the words of another piece stand before it. -/
inductive Tokenizes (dialect : Dialect) : Bool → List Piece → List Token → Prop
  | nil (free : Bool) : Tokenizes dialect free [] []
  | words {free : Bool} {text : String} {rest : List Piece} {tokens : List Token}
      (htext : text ≠ "" ∧ Scan.ArePlain text.toList) (hrest : Tokenizes dialect true rest tokens) :
      Tokenizes dialect free (.words text :: rest) tokens
  | name {text : String} {rest : List Piece} {tokens : List Token}
      (hrest : Tokenizes dialect false rest tokens) :
      Tokenizes dialect true (.name text :: rest) (.name text :: tokens)
  | literal {text : String} {rest : List Piece} {tokens : List Token} (hkept : dialect.Keeps text)
      (hrest : Tokenizes dialect false rest tokens) :
      Tokenizes dialect true (.literal text :: rest) (.literal text :: tokens)

theorem printed_cons (dialect : Dialect) (piece : Piece) (rest : List Piece) :
    printed dialect (piece :: rest) = (piece.text dialect).toList ++ printed dialect rest := rfl

theorem printed_append (dialect : Dialect) (first second : List Piece) :
    printed dialect (first ++ second) = printed dialect first ++ printed dialect second :=
  List.flatMap_append

theorem toList_statement_text (dialect : Dialect) (statement : Statement) :
    (statement.text dialect).toList = printed dialect (statement.pieces dialect) := by
  have hconcat : ∀ pieces : List Piece,
      (Text.concat (pieces.map (Piece.text dialect))).toList = printed dialect pieces := by
    intro pieces
    induction pieces with
    | nil => rfl
    | cons piece rest ih =>
        rw [List.map_cons, Text.concat, String.toList_append, ih, printed_cons]
  exact hconcat _

namespace Tokenizes

variable {dialect : Dialect} {free : Bool} {pieces first second : List Piece}
  {tokens firstTokens secondTokens : List Token}

theorem weaken (h : Tokenizes dialect false pieces tokens) :
    Tokenizes dialect free pieces tokens := by
  cases h with
  | nil => exact .nil free
  | words htext hrest => exact .words htext hrest

theorem append (hfirst : Tokenizes dialect free first firstTokens)
    (hsecond : Tokenizes dialect false second secondTokens) :
    Tokenizes dialect free (first ++ second) (firstTokens ++ secondTokens) := by
  induction hfirst with
  | nil free => exact hsecond.weaken
  | words htext _ ih => exact .words htext ih
  | name _ ih => exact .name ih
  | literal hkept _ ih => exact .literal hkept ih

/-- Parts are told apart by the words between them. -/
theorem separated {between : String} (hbetween : between ≠ "" ∧ Scan.ArePlain between.toList)
    {parts : List (List Piece)} {tokens : List (List Token)}
    (h : List.Forall₂ (Tokenizes dialect true) parts tokens) :
    Tokenizes dialect true (separated between parts) tokens.flatten := by
  induction h with
  | nil => exact .nil true
  | @cons part partTokens rest restTokens hpart hrest ih =>
      cases hrest with
      | nil => simpa [SchemaTables.separated] using hpart
      | cons hnext htail => exact hpart.append (.words hbetween ih)

theorem listed {parts : List (List Piece)} {tokens : List (List Token)}
    (h : List.Forall₂ (Tokenizes dialect true) parts tokens) :
    Tokenizes dialect true (listed parts) tokens.flatten :=
  separated (by decide) h

/-- The reader has found the tokens, and stands where words may follow. -/
def Found (dialect : Dialect) (scan : Scan) (pieces : List Piece) (tokens : List Token) : Prop :=
  (scan.run dialect (printed dialect pieces)).Rests dialect ∧
    (scan.run dialect (printed dialect pieces)).settle dialect =
      (scan.settle dialect).add (printed dialect pieces) tokens

/-- A quoted piece is a token if something that is not quoted follows. -/
theorem found_token {scan : Scan} (piece : Piece) {rest : List Piece} {quote : Char} {text : String}
    (houtside : scan.mode = .outside) (hquote : quote ∈ dialect.quotes)
    (hpiece : piece.text dialect = Text.quoted quote text)
    (hread : scan.run dialect (Text.quoted quote text).toList =
      scan.within (Text.quoted quote text).toList (.closing quote text.toList))
    (hrest : ∀ next : Scan, next.Rests dialect → Found dialect next rest tokens) :
    Found dialect scan (piece :: rest) (dialect.token quote text.toList :: tokens) := by
  have hclosing : (scan.within (Text.quoted quote text).toList
      (.closing quote text.toList)).Rests dialect := Or.inr ⟨quote, hquote, _, rfl⟩
  obtain ⟨hrests, hsettle⟩ := hrest _ hclosing
  rw [Found, printed_cons, Scan.run_append, hpiece, hread]
  refine ⟨hrests, ?_⟩
  rw [hsettle, Scan.settle_closing houtside, Scan.settle_of_outside houtside, Scan.add_add]
  rfl

/-- A reader that rests finds the tokens; if one stands at the start, it must stand outside. -/
theorem found (h : Tokenizes dialect free pieces tokens) {scan : Scan} (hscan : scan.Rests dialect)
    (hfree : free = true → scan.mode = .outside) : Found dialect scan pieces tokens := by
  -- A token counts only once the piece behind it is read, so the induction goes over all readers
  -- at rest, not only over those that stand outside.
  induction h generalizing scan with
  | nil free => exact ⟨hscan, (Scan.add_nil _).symm⟩
  | @words free text rest tokens htext _ ih =>
      have hword : scan.run dialect text.toList = (scan.settle dialect).add text.toList [] := by
        refine hscan.run_of_arePlain ?_ htext.2
        simpa using htext.1
      have houtside : ((scan.settle dialect).add text.toList []).mode = .outside :=
        hscan.mode_settle
      obtain ⟨hrests, hsettle⟩ := ih (Or.inl houtside) fun _ => houtside
      rw [Found, printed_cons, Scan.run_append, Piece.text, hword]
      refine ⟨hrests, ?_⟩
      rw [hsettle, Scan.settle_of_outside houtside, Scan.add_add, List.nil_append]
  | @name text rest tokens _ ih =>
      have houtside : scan.mode = .outside := hfree rfl
      have htoken := found_token (.name text) houtside dialect.nameQuote_mem_quotes rfl
        (Scan.run_quoted_name houtside text) fun _ hnext => ih hnext (by simp)
      rwa [Dialect.token_nameQuote, String.ofList_toList] at htoken
  | @literal text rest tokens hkept _ ih =>
      have houtside : scan.mode = .outside := hfree rfl
      have htoken := found_token (.literal text) houtside dialect.literalQuote_mem_quotes rfl
        (Scan.run_quoted_literal houtside hkept) fun _ hnext => ih hnext (by simp)
      rwa [Dialect.token_literalQuote, String.ofList_toList] at htoken

end Tokenizes

/-! ## The parts of statements -/

section Parts

variable {dialect : Dialect}

theorem isPlain_of_isNumeral {c : Char} (h : Decimal.IsNumeral c) : Scan.IsPlain c := by
  intro hc
  simp only [List.mem_cons, List.not_mem_nil, or_false] at hc
  rcases hc with rfl | rfl | rfl | rfl | rfl
  all_goals exact absurd h (by decide)

theorem arePlain_number (number : Number) : Scan.ArePlain number.text.toList :=
  fun c hc => isPlain_of_isNumeral (number.areNumerals_text c hc)

theorem arePlain_toString (n : Nat) : Scan.ArePlain (toString n).toList :=
  fun c hc => isPlain_of_isNumeral (areNumerals_toString n c hc)

theorem words_append {first second : String} (hfirst : first ≠ "" ∧ Scan.ArePlain first.toList)
    (hsecond : Scan.ArePlain second.toList) :
    first ++ second ≠ "" ∧ Scan.ArePlain (first ++ second).toList := by
  constructor
  · intro hempty
    exact hfirst.1 (String.append_eq_empty_iff.mp hempty).1
  · rw [String.toList_append]
    exact Scan.arePlain_append.mpr ⟨hfirst.2, hsecond⟩

theorem forall₂_map {α : Type} {pieces : α → List Piece} {tokens : α → List Token} {parts : List α}
    (h : ∀ part ∈ parts, Tokenizes dialect true (pieces part) (tokens part)) :
    List.Forall₂ (Tokenizes dialect true) (parts.map pieces) (parts.map tokens) := by
  rw [List.forall₂_map_left_iff, List.forall₂_map_right_iff, List.forall₂_same]
  exact h

theorem tokenizes_literals {texts : List String} (hkept : dialect.KeepsAll (texts.map .literal)) :
    Tokenizes dialect true (listed (texts.map fun text => [.literal text]))
      (texts.map .literal) := by
  have hparts : List.Forall₂ (Tokenizes dialect true) (texts.map fun text => [.literal text])
      (texts.map fun text => [.literal text]) :=
    forall₂_map fun text htext =>
      .literal (Dialect.keepsAll_map_literal hkept htext) (.nil false)
  have hflatten : (texts.map fun text => [Token.literal text]).flatten = texts.map .literal := by
    rw [← List.flatMap_def, List.map_eq_flatMap]
  rw [← hflatten]
  exact Tokenizes.listed hparts

theorem ColumnType.tokenizes (type : ColumnType) (hkept : dialect.KeepsAll (type.tokens dialect)) :
    Tokenizes dialect true (type.pieces dialect) (type.tokens dialect) := by
  cases type with
  | varchar length =>
      have htext : "varchar(" ++ toString length ++ ")" ≠ "" ∧
          Scan.ArePlain ("varchar(" ++ toString length ++ ")").toList :=
        words_append (words_append (by decide) (arePlain_toString length)) (by decide)
      cases dialect
      all_goals exact .words htext (.nil true)
  | enumeration name values =>
      cases dialect with
      | pg => exact .name (.nil false)
      | mysql =>
          have hvalues := (tokenizes_literals hkept).append
            (.words (by decide) (.nil true) : Tokenizes .mysql false [.words ")"] [])
          rw [List.append_nil] at hvalues
          exact .words (by decide) hvalues
  | _ =>
      cases dialect
      all_goals exact .words (by decide) (.nil true)

namespace ColumnDefinition

variable {column : ColumnDefinition}

theorem tokenizes_default (hraw : ∀ expression, column.default ≠ some (.raw expression))
    (hkept : dialect.KeepsAll ((column.default.map Default.tokens).getD [])) :
    Tokenizes dialect false ((column.default.map Default.pieces).getD [])
      ((column.default.map Default.tokens).getD []) := by
  cases hdefault : column.default with
  | none => exact .nil false
  | some initial =>
      cases initial with
      | raw expression => exact absurd hdefault (hraw expression)
      | literal text =>
          rw [hdefault] at hkept
          exact .words (by decide) (.literal (hkept text List.mem_cons_self) (.nil false))

theorem tokenizes_comment (hkept : dialect.KeepsAll (column.commentTokens dialect)) :
    Tokenizes dialect false (column.commentPieces dialect) (column.commentTokens dialect) := by
  unfold commentPieces commentTokens at *
  cases hinline : dialect.hasInlineComments with
  | false => exact .nil false
  | true =>
      cases hcomment : column.comment with
      | none => exact .nil false
      | some comment =>
          rw [hinline, hcomment] at hkept
          exact .words (by decide) (.literal (hkept comment List.mem_cons_self) (.nil false))

theorem tokenizes (hraw : ∀ expression, column.default ≠ some (.raw expression))
    (hkept : dialect.KeepsAll (column.tokens dialect)) :
    Tokenizes dialect true (column.pieces dialect) (column.tokens dialect) := by
  obtain ⟨hrest, hcomment⟩ := Dialect.keepsAll_append.mp hkept
  obtain ⟨hstart, hdefault⟩ := Dialect.keepsAll_append.mp hrest
  have htype := column.type.tokenizes (hstart.of_subset (List.subset_cons_self _ _))
  have hnull :
      Tokenizes dialect false (if column.notNull then [.words " not null"] else []) [] := by
    split
    · exact .words (by decide) (.nil true)
    · exact .nil false
  have hhead : Tokenizes dialect true
      (.name column.name :: .words " " :: column.type.pieces dialect)
      (.name column.name :: column.type.tokens dialect) := .name (.words (by decide) htype)
  have hall := ((hhead.append hnull).append (tokenizes_default hraw hdefault)).append
    (tokenizes_comment hcomment)
  rwa [List.append_nil] at hall

end ColumnDefinition

namespace Check

theorem tokenizes_bounds (check : Check) :
    Tokenizes dialect true (separated " and " check.bounds)
      ((check.minimum.map fun _ => Token.name check.column).toList ++
        (check.maximum.map fun _ => Token.name check.column).toList) := by
  have hbound : ∀ (bound? : Option Number) (sign : String), sign ≠ "" ∧ Scan.ArePlain sign.toList →
      List.Forall₂ (Tokenizes dialect true)
        (bound?.map fun bound => [.name check.column, .words (sign ++ bound.text)]).toList
        ((bound?.map fun _ => Token.name check.column).toList.map fun token => [token]) := by
    intro bound? sign hsign
    cases bound? with
    | none => exact .nil
    | some bound =>
        have htext := words_append hsign (arePlain_number bound)
        exact .cons (.name (.words htext (.nil true))) .nil
  have hbounds : List.Forall₂ (Tokenizes dialect true) check.bounds
      (((check.minimum.map fun _ => Token.name check.column).toList.map fun token => [token]) ++
        (check.maximum.map fun _ => Token.name check.column).toList.map fun token => [token]) :=
    List.rel_append (hbound check.minimum " >= " (by decide))
      (hbound check.maximum " <= " (by decide))
  have hflatten : ∀ tokens : List Token, (tokens.map fun token => [token]).flatten = tokens := by
    intro tokens
    rw [← List.flatMap_def, List.flatMap_singleton']
  rw [← List.map_append] at hbounds
  have hseparated := Tokenizes.separated (by decide : " and " ≠ "" ∧ _) hbounds
  rwa [hflatten] at hseparated

theorem tokenizes (table : String) (check : Check) :
    Tokenizes dialect true (check.pieces table) (check.tokens table) := by
  have hbody := (tokenizes_bounds check).append
    (.words (by decide) (.nil true) : Tokenizes dialect false [.words ")"] [])
  rw [List.append_nil] at hbody
  exact .words (by decide) (.name (.words (by decide) hbody))

end Check

theorem tokenizes_key (table key : String) :
    Tokenizes dialect true (keyPieces table key) (keyTokens table key) :=
  .words (by decide) (.name (.words (by decide) (.name (.words (by decide) (.nil true)))))

theorem TableDefinition.tokenizes_parts {table : TableDefinition}
    (hraw : ∀ column ∈ table.columns, ∀ expression, column.default ≠ some (.raw expression))
    (hkept : dialect.KeepsAll (table.tokens dialect)) :
    Tokenizes dialect true (listed (table.parts dialect))
      (table.columns.flatMap (ColumnDefinition.tokens dialect) ++
        table.checks.flatMap (Check.tokens table.name) ++
        (table.primaryKey.map (keyTokens table.name)).getD []) := by
  have hbody := hkept.of_subset (List.subset_cons_self _ _)
  have hcolumnsKept := (Dialect.keepsAll_append.mp (Dialect.keepsAll_append.mp hbody).1).1
  have hcolumns := forall₂_map fun column hcolumn =>
    ColumnDefinition.tokenizes (hraw column hcolumn) (hcolumnsKept.of_mem hcolumn)
  have hchecks := forall₂_map fun check (_ : check ∈ table.checks) =>
    (check.tokenizes table.name : Tokenizes dialect true _ _)
  have hkey : List.Forall₂ (Tokenizes dialect true)
      (table.primaryKey.map (keyPieces table.name)).toList
      (table.primaryKey.map (keyTokens table.name)).toList := by
    cases table.primaryKey with
    | none => exact .nil
    | some key => exact .cons (tokenizes_key table.name key) .nil
  have hparts : List.Forall₂ (Tokenizes dialect true) (table.parts dialect)
      (table.columns.map (ColumnDefinition.tokens dialect) ++
        table.checks.map (Check.tokens table.name) ++
        (table.primaryKey.map (keyTokens table.name)).toList) :=
    List.rel_append (List.rel_append hcolumns hchecks) hkey
  have hflatten : (table.primaryKey.map (keyTokens table.name)).toList.flatten =
      (table.primaryKey.map (keyTokens table.name)).getD [] := by
    cases table.primaryKey with
    | none => rfl
    | some key => exact List.flatten_singleton
  have hlisted := Tokenizes.listed hparts
  rwa [List.flatten_append, List.flatten_append, hflatten, ← List.flatMap_def,
    ← List.flatMap_def] at hlisted

end Parts

/-! ## Whole statements -/

/-- Words that end a statement. -/
def EndsStatement (text : String) : Prop :=
  text.toList.getLast? = some ';' ∧ Scan.ArePlain text.toList.dropLast

instance (text : String) : Decidable (EndsStatement text) :=
  inferInstanceAs (Decidable (_ ∧ _))

theorem Statement.tokenizes (dialect : Dialect) {statement : Statement}
    (hraw : statement.HasNoRaw) (hkept : dialect.KeepsAll (statement.tokens dialect)) :
    ∃ front last, statement.pieces dialect = front ++ [.words last] ∧
      Tokenizes dialect true front (statement.tokens dialect) ∧ EndsStatement last := by
  cases statement with
  | createEnumType name values =>
      have hvalues := tokenizes_literals (hkept.of_subset (List.subset_cons_self _ _))
      exact ⟨_, _, rfl, .words (by decide) (.name (.words (by decide) hvalues)), by decide⟩
  | createTable table =>
      have hparts := TableDefinition.tokenizes_parts hraw hkept
      exact ⟨_, _, rfl, .words (by decide) (.name (.words (by decide) hparts)), by decide⟩
  | commentOnColumn table column comment =>
      have hcomment : dialect.Keeps comment :=
        hkept comment (List.mem_cons_of_mem _ (List.mem_cons_of_mem _ List.mem_cons_self))
      exact ⟨[_, _, _, _, _, _], _, rfl, .words (by decide) (.name (.words (by decide) (.name
        (.words (by decide) (.literal hcomment (.nil false)))))), by decide⟩
  | createIndex table column =>
      exact ⟨[_, _, _, _, _, _], _, rfl, .words (by decide) (.name (.words (by decide) (.name
        (.words (by decide) (.name (.nil false)))))), by decide⟩
  | addUnique table column =>
      exact ⟨[_, _, _, _, _, _], _, rfl, .words (by decide) (.name (.words (by decide) (.name
        (.words (by decide) (.name (.nil false)))))), by decide⟩
  | addColumns table columns =>
      have hkeptColumns := hkept.of_subset (List.subset_cons_self _ _)
      have hcolumns := Tokenizes.listed (forall₂_map fun column hcolumn =>
        (.words (by decide) (ColumnDefinition.tokenizes (hraw column hcolumn)
          (hkeptColumns.of_mem hcolumn)) :
            Tokenizes dialect true (.words "add column " :: column.pieces dialect) _))
      rw [← List.flatMap_def] at hcolumns
      exact ⟨_, _, rfl, .words (by decide) (.name (.words (by decide) hcolumns)), by decide⟩
  | addForeignKey table column targetTable targetColumn =>
      exact ⟨[_, _, _, _, _, _, _, _, _, _], _, rfl, .words (by decide) (.name (.words (by decide)
        (.name (.words (by decide) (.name (.words (by decide) (.name (.words (by decide)
          (.name (.nil false)))))))))), by decide⟩
  | dropTable name =>
      exact ⟨[_, _], _, rfl, .words (by decide) (.name (.nil false)), by decide⟩
  | dropType name =>
      exact ⟨[_, _], _, rfl, .words (by decide) (.name (.nil false)), by decide⟩

end SchemaTables
