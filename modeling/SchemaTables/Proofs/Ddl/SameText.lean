import SchemaTables.Proofs.Ddl.Legibility
import SchemaTables.Proofs.Ddl.Names

/-!
# Statements with the same text

A statement can be told from its text, up to what the dialect does not write (`text_eq_iff_alike`):
the comments of columns where they are statements of their own, the values of an enumeration that is
a type of its own or the name of one that is not, and the difference between the two types of
documents where there is only one.  The bounds of a range are told up to their texts.

Expressions for defaults stand in the text as they are and may hold anything, so there must be none.
-/

namespace SchemaTables

/-! ## What a dialect writes -/

/-- The type without what the dialect does not write: the values of an enumeration that is a type of
its own, or the name of one that is not, and the difference between the two types of documents. -/
def ColumnType.shown : Dialect → ColumnType → ColumnType
  | .pg, .enumeration name _ => .enumeration name []
  | .mysql, .enumeration _ values => .enumeration "" values
  | .mysql, .jsonb => .json
  | _, type => type

/-- The column without what the dialect does not write. -/
def ColumnDefinition.shown (dialect : Dialect) (column : ColumnDefinition) : ColumnDefinition :=
  { column with
    type := column.type.shown dialect
    comment := if dialect.hasInlineComments then column.comment else none }

/-- The range, with the texts of its bounds. -/
def Check.shown (check : Check) : String × Option String × Option String :=
  (check.column, check.minimum.map Number.text, check.maximum.map Number.text)

/-- The tables differ at most in what the dialect does not write. -/
structure TableDefinition.Alike (dialect : Dialect) (first second : TableDefinition) : Prop where
  name : first.name = second.name
  columns : first.columns.map (ColumnDefinition.shown dialect) =
    second.columns.map (ColumnDefinition.shown dialect)
  checks : first.checks.map Check.shown = second.checks.map Check.shown
  primaryKey : first.primaryKey = second.primaryKey

/-- The statements differ at most in what the dialect does not write. -/
def Statement.Alike (dialect : Dialect) : Statement → Statement → Prop
  | .createTable first, .createTable second => first.Alike dialect second
  | .addColumns first columns, .addColumns second others =>
    first = second ∧ columns.map (ColumnDefinition.shown dialect) =
      others.map (ColumnDefinition.shown dialect)
  | first, second => first = second

section Legible

variable {dialect : Dialect} {words : List String}

/-! ## Types -/

namespace ColumnType

/-- The letters that a type starts with. -/
def stem : Dialect → ColumnType → String
  | _, .varchar _ => "varchar"
  | _, .json => "json"
  | _, .boolean => "boolean"
  | _, .date => "date"
  | .pg, .uuid => "uuid"
  | .pg, .jsonb => "jsonb"
  | .pg, .timestamp => "timestamptz"
  | .pg, .real => "real"
  | .pg, .integer => "integer"
  | .pg, .enumeration _ _ => ""
  | .mysql, .uuid => "char"
  | .mysql, .jsonb => "json"
  | .mysql, .timestamp => "datetime"
  | .mysql, .real => "float"
  | .mysql, .integer => "int"
  | .mysql, .enumeration _ _ => "enum"

/-- What stands behind the letters. -/
def details : Dialect → ColumnType → List Piece
  | _, .varchar length => [.words "(", .words (toString length), .words ")"]
  | .pg, .enumeration name _ => [.name name]
  | .mysql, .uuid => [.words "(", .words "36", .words ")"]
  | .mysql, .enumeration _ values =>
    .words "(" :: listed (values.map fun value => [.literal value]) ++ [.words ")"]
  | _, _ => []

theorem printed_pieces (type : ColumnType) :
    printed dialect (type.pieces dialect) =
      (type.stem dialect).toList ++ printed dialect (type.details dialect) := by
  cases type <;> cases dialect <;> simp [pieces, stem, details, printed, Piece.text]

theorem pieces_shown (type : ColumnType) :
    (type.shown dialect).pieces dialect = type.pieces dialect := by
  cases type <;> cases dialect <;> rfl

theorem details_shown (type : ColumnType) :
    (type.shown dialect).details dialect = type.details dialect := by
  cases type <;> cases dialect <;> rfl

theorem isAlpha_of_mem_stem (type : ColumnType) :
    ∀ c ∈ (type.stem dialect).toList, c.isAlpha = true := by
  cases type <;> cases dialect <;> simp [stem]

/-- Types with the same letters are the same, or have details. -/
theorem shown_eq_of_stem_eq {first second : ColumnType}
    (h : first.stem dialect = second.stem dialect) :
    first.shown dialect = second.shown dialect ∨
      (∃ length other, first = .varchar length ∧ second = .varchar other) ∨
        ∃ name values other others, first = .enumeration name values ∧
          second = .enumeration other others := by
  cases first with
  | varchar length =>
      cases second with
      | varchar other => exact .inr (.inl ⟨length, other, rfl, rfl⟩)
      | _ => cases dialect <;> simp [stem] at h
  | enumeration name values =>
      cases second with
      | enumeration other others => exact .inr (.inr ⟨name, values, other, others, rfl, rfl⟩)
      | _ => cases dialect <;> simp [stem] at h
  | _ =>
      cases second with
      | varchar other => cases dialect <;> simp [stem] at h
      | enumeration other others => cases dialect <;> simp [stem] at h
      | _ =>
          cases dialect
          all_goals first
            | exact .inl rfl
            | simp [stem] at h

theorem startsWith_details (type : ColumnType) {rest : List Char} (hrest : StartsWith words rest) :
    StartsWith ("(" :: "\"" :: words) (printed dialect (type.details dialect) ++ rest) := by
  have hnothing : StartsWith ("(" :: "\"" :: words) rest :=
    hrest.mono fun _ hword => List.mem_cons_of_mem _ (List.mem_cons_of_mem _ hword)
  have hbracket : ∀ pieces,
      StartsWith ("(" :: "\"" :: words) (printed dialect (.words "(" :: pieces) ++ rest) :=
    fun pieces => startsWith_words List.mem_cons_self pieces rest
  cases type with
  | varchar _ => cases dialect <;> exact hbracket _
  | uuid =>
      cases dialect with
      | pg => exact hnothing
      | mysql => exact hbracket _
  | enumeration name values =>
      cases dialect with
      | pg =>
          refine ⟨"\"", List.mem_cons_of_mem _ List.mem_cons_self, ?_⟩
          simp [details, printed, Piece.text, Text.quoted, Dialect.nameQuote]
      | mysql => exact hbracket _
  | _ => cases dialect <;> exact hnothing

/-- The text of a type tells the type, as far as the dialect writes it. -/
theorem agree (hletters : ∀ word ∈ words, StartsOutside Char.isAlpha word)
    (hquotes : ∀ word ∈ words, StartsOutside isQuote word) (first second : ColumnType) :
    AgreeOnlyIf words (printed dialect (first.pieces dialect))
      (printed dialect (second.pieces dialect)) (first.shown dialect = second.shown dialect) := by
  have hstem : AgreeOnlyIf ("(" :: "\"" :: words) (first.stem dialect).toList
      (second.stem dialect).toList ((first.stem dialect).toList = (second.stem dialect).toList) :=
    .span first.isAlpha_of_mem_stem second.isAlpha_of_mem_stem
      (List.forall_mem_cons.mpr ⟨by decide, List.forall_mem_cons.mpr ⟨by decide, hletters⟩⟩)
  rw [printed_pieces, printed_pieces]
  refine (hstem.append (fun _ => first.startsWith_details) (fun _ => second.startsWith_details)
    fun heq => ?_).imp And.right
  rcases shown_eq_of_stem_eq (String.toList_injective heq) with hshown |
    ⟨length, other, rfl, rfl⟩ | ⟨name, values, other, others, rfl, rfl⟩
  · have hdetails : first.details dialect = second.details dialect := by
      rw [← details_shown first, hshown, details_shown]
    rw [hdetails]
    exact .refl hshown
  · have htexts : AgreeOnlyIf [")"] (printed dialect [.words (toString length)])
        (printed dialect [.words (toString other)]) (toString length = toString other) :=
      .numerals (by decide) (areNumerals_toString length) (areNumerals_toString other)
    have hlength : AgreeOnlyIf words
        (printed dialect (.words "(" :: ([.words (toString length)] ++ [.words ")"])))
        (printed dialect (.words "(" :: ([.words (toString other)] ++ [.words ")"])))
        (toString length = toString other) := .words_cons (.closed htexts)
    have hsame := hlength.imp fun htext => toString_injective (congrArg String.toList htext)
    cases dialect <;> exact hsame.imp (congrArg ColumnType.varchar)
  · cases dialect with
    | pg => exact (AgreeOnlyIf.name hquotes).imp fun hname => by rw [shown, shown, hname]
    | mysql =>
        have hvalues : AgreeOnlyIf [")"]
            (printed .mysql (listed (values.map fun value => [.literal value])))
            (printed .mysql (listed (others.map fun value => [.literal value])))
            (values = others) := .literals (by decide) (by decide)
        have hsame : AgreeOnlyIf words (printed .mysql (details .mysql (.enumeration name values)))
            (printed .mysql (details .mysql (.enumeration other others))) (values = others) :=
          .words_cons (.closed hvalues)
        exact hsame.imp fun heq => by rw [shown, shown, heq]

end ColumnType

/-! ## Columns -/

namespace ColumnDefinition

/-- What stands behind the definition of a column. -/
def ends : List String := [", ", ");", ";"]

theorem pieces_shown (column : ColumnDefinition) :
    (column.shown dialect).pieces dialect = column.pieces dialect := by
  have hcomment : (column.shown dialect).commentPieces dialect = column.commentPieces dialect := by
    cases dialect <;> rfl
  rw [pieces, pieces, hcomment]
  simp only [shown, ColumnType.pieces_shown]
  rfl

theorem shown_eq_iff {first second : ColumnDefinition} :
    first.shown dialect = second.shown dialect ↔
      first.name = second.name ∧ first.type.shown dialect = second.type.shown dialect ∧
        first.notNull = second.notNull ∧ first.default = second.default ∧
          (first.shown dialect).comment = (second.shown dialect).comment := by
  simp [shown]

theorem exists_literal {column : ColumnDefinition}
    (h : ∀ expression, column.default ≠ some (.raw expression)) :
    ∃ text? : Option String, column.default = text?.map .literal := by
  cases hdefault : column.default with
  | none => exact ⟨none, rfl⟩
  | some default =>
      cases default with
      | literal text => exact ⟨some text, rfl⟩
      | raw expression => exact absurd hdefault (h expression)

def notNullClause (notNull : Bool) : List Piece :=
  clause " not null" (fun _ => []) (if notNull then some () else none)

def defaultClause : Option String → List Piece := clause " default " fun text => [.literal text]

def commentClause : Option String → List Piece := clause " comment " fun text => [.literal text]

/-- What stands behind the type of a column. -/
def clauses (notNull : Bool) (default? comment? : Option String) : List Piece :=
  notNullClause notNull ++ (defaultClause default? ++ commentClause comment?)

theorem pieces_eq {column : ColumnDefinition} {text? : Option String}
    (hdefault : column.default = text?.map .literal) :
    column.pieces dialect =
      .name column.name :: .words " " :: (column.type.pieces dialect ++
        clauses column.notNull text? (column.shown dialect).comment) := by
  have hnotNull : (if column.notNull then [Piece.words " not null"] else []) =
      notNullClause column.notNull := by
    cases column.notNull <;> rfl
  have htext : (column.default.map Default.pieces).getD [] = defaultClause text? := by
    rw [hdefault]
    cases text? <;> rfl
  have hcomment : column.commentPieces dialect =
      commentClause (column.shown dialect).comment := by
    rw [commentPieces, shown]
    cases dialect <;> cases column.comment <;> rfl
  rw [pieces, hnotNull, htext, hcomment, clauses]
  simp only [List.cons_append, List.append_assoc]

theorem startsWith_clauses {rest : List Char} (hrest : StartsWith ends rest) (notNull : Bool)
    (default? comment? : Option String) :
    StartsWith (" not null" :: " default " :: " comment " :: ends)
      (printed dialect (clauses notNull default? comment?) ++ rest) :=
  startsWith_clause_append (startsWith_clause_append (startsWith_clause hrest comment?) default?) _

theorem agree_clauses {first second : Bool} {default? other? comment? note? : Option String} :
    AgreeOnlyIf ends (printed dialect (clauses first default? comment?))
      (printed dialect (clauses second other? note?))
      (first = second ∧ default? = other? ∧ comment? = note?) := by
  have hnotNull : AgreeOnlyIf (" default " :: " comment " :: ends)
      (printed dialect (notNullClause first)) (printed dialect (notNullClause second))
      ((if first then some () else none) = if second then some () else none) :=
    .optional (by decide) fun _ _ => .refl rfl
  have hdefault : AgreeOnlyIf (" comment " :: ends) (printed dialect (defaultClause default?))
      (printed dialect (defaultClause other?)) (default? = other?) :=
    .optional (by decide) fun _ _ => .literal (by decide)
  have hcomment : AgreeOnlyIf ends (printed dialect (commentClause comment?))
      (printed dialect (commentClause note?)) (comment? = note?) :=
    .optional (by decide) fun _ _ => .literal (by decide)
  have htexts := hdefault.append_pieces (fun _ hrest => startsWith_clause hrest comment?)
    (fun _ hrest => startsWith_clause hrest note?) hcomment
  refine (hnotNull.append_pieces
    (fun _ hrest => startsWith_clause_append (startsWith_clause hrest comment?) default?)
    (fun _ hrest => startsWith_clause_append (startsWith_clause hrest note?) other?) htexts).imp ?_
  rintro ⟨hset, htext, hnote⟩
  refine ⟨?_, htext, hnote⟩
  cases first <;> cases second <;> simp at hset ⊢

theorem agree {first second : ColumnDefinition}
    (hfirst : ∀ expression, first.default ≠ some (.raw expression))
    (hsecond : ∀ expression, second.default ≠ some (.raw expression)) :
    AgreeOnlyIf ends (printed dialect (first.pieces dialect))
      (printed dialect (second.pieces dialect)) (first.shown dialect = second.shown dialect) := by
  obtain ⟨text?, htext⟩ := exists_literal hfirst
  obtain ⟨other?, hother⟩ := exists_literal hsecond
  have htype : AgreeOnlyIf (" not null" :: " default " :: " comment " :: ends)
      (printed dialect (first.type.pieces dialect)) (printed dialect (second.type.pieces dialect))
      (first.type.shown dialect = second.type.shown dialect) :=
    ColumnType.agree (by decide) (by decide) first.type second.type
  have hbody := htype.append_pieces
    (fun _ hrest => startsWith_clauses hrest first.notNull text? (first.shown dialect).comment)
    (fun _ hrest => startsWith_clauses hrest second.notNull other? (second.shown dialect).comment)
    agree_clauses
  rw [pieces_eq htext, pieces_eq hother]
  refine (AgreeOnlyIf.name_words (by decide) (by decide) fun _ => hbody.words_cons).imp ?_
  rintro ⟨hname, htype, hnotNull, hdefault, hcomment⟩
  exact shown_eq_iff.mpr ⟨hname, htype, hnotNull, by rw [htext, hother, hdefault], hcomment⟩

end ColumnDefinition

/-! ## Ranges and keys -/

namespace Check

def signs : List String := [" >= ", " <= "]

/-- The signs and texts of bounds. -/
def limitsOf (minimum? maximum? : Option String) : List (String × String) :=
  (minimum?.map fun text => (" >= ", text)).toList ++
    (maximum?.map fun text => (" <= ", text)).toList

def limits (check : Check) : List (String × String) :=
  limitsOf (check.minimum.map Number.text) (check.maximum.map Number.text)

def limitPieces (column : String) (limit : String × String) : List Piece :=
  [.name column, .words (limit.1 ++ limit.2)]

theorem bounds_eq (check : Check) : check.bounds = check.limits.map (limitPieces check.column) := by
  rw [bounds, limits, limitsOf]
  cases check.minimum <;> cases check.maximum <;> rfl

theorem limitsOf_injective {minimum? least? maximum? greatest? : Option String}
    (h : limitsOf minimum? maximum? = limitsOf least? greatest?) :
    minimum? = least? ∧ maximum? = greatest? := by
  cases minimum? <;> cases maximum? <;> cases least? <;> cases greatest? <;>
    simp [limitsOf] at h ⊢
  all_goals exact h

theorem of_mem_limits {check : Check} {sign text : String} (h : (sign, text) ∈ check.limits) :
    sign ∈ signs ∧ Decimal.AreNumerals text.toList := by
  simp only [limits, limitsOf, Option.map_map, List.mem_append, Option.mem_toList,
    Option.map_eq_some_iff, Function.comp_apply, Prod.mk.injEq] at h
  rcases h with ⟨bound, -, rfl, rfl⟩ | ⟨bound, -, rfl, rfl⟩
  · exact ⟨by decide, bound.areNumerals_text⟩
  · exact ⟨by decide, bound.areNumerals_text⟩

theorem printed_limitPieces (column sign text : String) :
    printed dialect (limitPieces column (sign, text)) =
      printed dialect [.name column, .words sign, .words text] := by
  simp [limitPieces, printed, Piece.text, String.toList_append]

theorem agree_limit {check other : Check} (column : String) {limit bound : String × String}
    (hlimit : limit ∈ check.limits) (hbound : bound ∈ other.limits) :
    AgreeOnlyIf [" and ", ")"] (printed dialect (limitPieces column limit))
      (printed dialect (limitPieces column bound)) (limit = bound) := by
  obtain ⟨sign, text⟩ := limit
  obtain ⟨otherSign, otherText⟩ := bound
  obtain ⟨hsign, htext⟩ := of_mem_limits hlimit
  obtain ⟨hotherSign, hotherText⟩ := of_mem_limits hbound
  have hquote : ∀ sign ∈ signs, StartsOutside isQuote sign := by decide
  have hapart : ∀ sign ∈ signs, ∀ other ∈ signs, sign ≠ other → Apart sign other := by decide
  have htexts : AgreeOnlyIf [" and ", ")"] (printed dialect [.words text])
      (printed dialect [.words otherText]) (text = otherText) :=
    .numerals (by decide) htext hotherText
  have hlimits : AgreeOnlyIf [" and ", ")"] (printed dialect [.words sign, .words text])
      (printed dialect [.words otherSign, .words otherText])
      ((sign, text) = (otherSign, otherText)) := by
    by_cases hsame : sign = otherSign
    · rw [hsame]
      exact htexts.words_cons.imp (congrArg _)
    · exact .of_apart (hapart sign hsign otherSign hotherSign hsame)
  rw [printed_limitPieces, printed_limitPieces]
  exact (AgreeOnlyIf.name_words (hquote sign hsign) (hquote otherSign hotherSign)
    fun _ => hlimits).imp And.right

theorem agree_bounds {first second : Check} (hcolumn : first.column = second.column) :
    AgreeOnlyIf [")"] (printed dialect (separated " and " first.bounds))
      (printed dialect (separated " and " second.bounds)) (first.limits = second.limits) := by
  rw [bounds_eq, bounds_eq, hcolumn]
  refine .list_eq (by decide) (fun limit rest => ?_) fun _ hlimit _ hbound => ?_
  · rw [limitPieces, printed_cons, List.append_assoc]
    exact not_startsWith_quoted (by decide) (isQuote_nameQuote dialect) second.column _
  · exact agree_limit second.column hlimit hbound

theorem agree (table : String) (first second : Check) :
    AgreeOnlyIf words (printed dialect (first.pieces table))
      (printed dialect (second.pieces table)) (first.shown = second.shown) := by
  have hcolumn : constraintName table first.column "check" =
      constraintName table second.column "check" → first.column = second.column :=
    fun hname => (constraintName_injective (by decide) (by decide) hname).1
  refine (AgreeOnlyIf.words_name (by decide) fun hname =>
    .words_cons (.closed (agree_bounds (hcolumn hname)))).imp ?_
  rintro ⟨hname, hlimits⟩
  obtain ⟨hminimum, hmaximum⟩ := limitsOf_injective hlimits
  rw [shown, shown, hcolumn hname, hminimum, hmaximum]

end Check

theorem agree_key (table first second : String) :
    AgreeOnlyIf words (printed dialect (keyPieces table first))
      (printed dialect (keyPieces table second)) (first = second) := by
  refine (AgreeOnlyIf.words_name (by decide) fun _ =>
    .words_name (by decide) fun _ => .refl trivial).imp ?_
  rintro ⟨-, hname, -⟩
  exact hname

/-! ## Tables -/

/-- A part of the definition of a table. -/
inductive TablePart
  | column (definition : ColumnDefinition)
  | check (range : Check)
  | key (name : String)

namespace TablePart

def pieces (dialect : Dialect) (table : String) : TablePart → List Piece
  | .column definition => definition.pieces dialect
  | .check range => range.pieces table
  | .key name => keyPieces table name

/-- The part without what the dialect does not write. -/
def shown (dialect : Dialect) :
    TablePart → ColumnDefinition ⊕ (String × Option String × Option String) ⊕ String
  | .column definition => .inl (definition.shown dialect)
  | .check range => .inr (.inl range.shown)
  | .key name => .inr (.inr name)

/-- The part is no column with an expression for its default. -/
def HasNoRaw (part : TablePart) : Prop :=
  ∀ definition, part = .column definition →
    ∀ expression, definition.default ≠ some (.raw expression)

theorem not_startsWith (table : String) (part : TablePart) (rest : List Char) :
    ¬StartsWith [");"] (printed dialect (part.pieces dialect table) ++ rest) := by
  have hapart : ∀ word ∈ [");"], Apart "constraint " word := by decide
  cases part with
  | column definition =>
      rw [pieces, ColumnDefinition.pieces, List.cons_append, List.cons_append, List.cons_append,
        printed_cons, List.append_assoc]
      exact not_startsWith_quoted (by decide) (isQuote_nameQuote dialect) definition.name _
  | check range => exact not_startsWith_words hapart _ rest
  | key name => exact not_startsWith_words hapart _ rest

/-- Columns start with a name, and constraints with a word. -/
theorem column_apart (definition : ColumnDefinition) {rest : List Piece} :
    AgreeOnlyIf words (printed dialect (definition.pieces dialect))
      (printed dialect (.words "constraint " :: rest)) False := by
  have hword : StartsOutside isQuote "constraint " := by decide
  exact .of_name_words hword

theorem check_apart (table : String) (range : Check) (name : String) :
    AgreeOnlyIf words (printed dialect (range.pieces table))
      (printed dialect (keyPieces table name)) False := by
  have hapart : Apart " check (" " primary key (" := by decide
  exact (AgreeOnlyIf.words_cons (.name_words (by decide) (by decide) fun _ =>
    .of_apart hapart)).imp And.right

/-- The text of a part tells its kind and the part, as far as the dialect writes it. -/
theorem agree (table : String) {first second : TablePart} (hfirst : first.HasNoRaw)
    (hsecond : second.HasNoRaw) :
    AgreeOnlyIf [", ", ");"] (printed dialect (first.pieces dialect table))
      (printed dialect (second.pieces dialect table))
      (first.shown dialect = second.shown dialect) := by
  cases first with
  | column definition =>
      cases second with
      | column other =>
          have hends : [", ", ");"] ⊆ ColumnDefinition.ends := by decide
          have hcolumn : AgreeOnlyIf ColumnDefinition.ends
              (printed dialect (definition.pieces dialect)) (printed dialect (other.pieces dialect))
              (definition.shown dialect = other.shown dialect) :=
            ColumnDefinition.agree (hfirst definition rfl) (hsecond other rfl)
          exact (hcolumn.mono hends).imp (congrArg Sum.inl)
      | check range => exact (column_apart definition).imp False.elim
      | key name => exact (column_apart definition).imp False.elim
  | check range =>
      cases second with
      | column other => exact (column_apart other).symm.imp False.elim
      | check other =>
          exact (Check.agree table range other).imp fun hrange => by rw [shown, shown, hrange]
      | key name => exact (check_apart table range name).imp False.elim
  | key name =>
      cases second with
      | column other => exact (column_apart other).symm.imp False.elim
      | check other => exact (check_apart table other name).symm.imp False.elim
      | key other => exact (agree_key table name other).imp fun hname => by rw [shown, shown, hname]

end TablePart

namespace TableDefinition

def partList (table : TableDefinition) : List TablePart :=
  table.columns.map .column ++ table.checks.map .check ++ (table.primaryKey.map .key).toList

theorem parts_eq (table : TableDefinition) :
    table.parts dialect = table.partList.map (TablePart.pieces dialect table.name) := by
  have hkey : (table.primaryKey.map (keyPieces table.name)).toList =
      (table.primaryKey.map TablePart.key).toList.map (TablePart.pieces dialect table.name) := by
    cases table.primaryKey <;> rfl
  rw [parts, partList, hkey, List.map_append, List.map_append, List.map_map, List.map_map]
  rfl

theorem map_inl_append_map_inr_inj {α β : Type} {lefts others : List α} {rights ends : List β} :
    lefts.map Sum.inl ++ rights.map Sum.inr = others.map Sum.inl ++ ends.map Sum.inr ↔
      lefts = others ∧ rights = ends := by
  constructor
  · intro h
    have hlefts := congrArg (List.filterMap Sum.getLeft?) h
    have hrights := congrArg (List.filterMap Sum.getRight?) h
    simp only [List.filterMap_append, List.filterMap_map, Function.comp_def, Sum.getLeft?_inl,
      Sum.getLeft?_inr, Sum.getRight?_inl, Sum.getRight?_inr, List.filterMap_some,
      List.filterMap_none, List.append_nil, List.nil_append] at hlefts hrights
    exact ⟨hlefts, hrights⟩
  · rintro ⟨rfl, rfl⟩
    rfl

/-- The columns, ranges and key of a table are told apart by their kinds. -/
theorem map_shown_partList_eq_iff {first second : TableDefinition} :
    first.partList.map (TablePart.shown dialect) = second.partList.map (TablePart.shown dialect) ↔
      first.columns.map (ColumnDefinition.shown dialect) =
          second.columns.map (ColumnDefinition.shown dialect) ∧
        first.checks.map Check.shown = second.checks.map Check.shown ∧
          first.primaryKey = second.primaryKey := by
  have hparts : ∀ table : TableDefinition, table.partList.map (TablePart.shown dialect) =
      (table.columns.map (ColumnDefinition.shown dialect)).map Sum.inl ++
        ((table.checks.map Check.shown).map Sum.inl ++
          table.primaryKey.toList.map Sum.inr).map Sum.inr := by
    intro table
    have hkey : (table.primaryKey.map TablePart.key).toList.map (TablePart.shown dialect) =
        (table.primaryKey.toList.map Sum.inr).map Sum.inr := by
      cases table.primaryKey <;> rfl
    rw [partList, List.map_append, List.map_append, hkey, List.map_append]
    simp [TablePart.shown, Function.comp_def]
  have hkeys : first.primaryKey.toList = second.primaryKey.toList ↔
      first.primaryKey = second.primaryKey := by
    cases first.primaryKey <;> cases second.primaryKey <;> simp
  rw [hparts, hparts, map_inl_append_map_inr_inj, map_inl_append_map_inr_inj, hkeys]

theorem agree {first second : TableDefinition}
    (hfirst : ∀ column ∈ first.columns, ∀ expression, column.default ≠ some (.raw expression))
    (hsecond : ∀ column ∈ second.columns, ∀ expression, column.default ≠ some (.raw expression))
    (hname : first.name = second.name) :
    AgreeOnlyIf [");"] (printed dialect (listed (first.parts dialect)))
      (printed dialect (listed (second.parts dialect)))
      (first.partList.map (TablePart.shown dialect) =
        second.partList.map (TablePart.shown dialect)) := by
  have hparts : ∀ {table : TableDefinition},
      (∀ column ∈ table.columns, ∀ expression, column.default ≠ some (.raw expression)) →
        ∀ part ∈ table.partList, part.HasNoRaw := by
    rintro table hraw part hpart column rfl
    have hmem : column ∈ table.columns := by simpa [partList] using hpart
    exact hraw column hmem
  rw [parts_eq, parts_eq, hname]
  exact .list (by decide) (TablePart.not_startsWith second.name) fun part hpart other hother =>
    TablePart.agree second.name (hparts hfirst part hpart) (hparts hsecond other hother)

end TableDefinition

/-! ## Statements -/

namespace Statement

theorem agree_createTable {first second : TableDefinition} (hfirst : HasNoRaw (.createTable first))
    (hsecond : HasNoRaw (.createTable second)) :
    AgreeOnlyIf words (printed dialect (pieces dialect (.createTable first)))
      (printed dialect (pieces dialect (.createTable second))) (first.Alike dialect second) := by
  refine (AgreeOnlyIf.words_name (by decide) fun hname =>
    .words_cons (.closed (TableDefinition.agree hfirst hsecond hname))).imp ?_
  rintro ⟨hname, hparts⟩
  obtain ⟨hcolumns, hchecks, hkey⟩ := TableDefinition.map_shown_partList_eq_iff.mp hparts
  exact ⟨hname, hcolumns, hchecks, hkey⟩

theorem agree_createEnumType {name other : String} {values others : List String} :
    AgreeOnlyIf words (printed dialect (pieces dialect (.createEnumType name values)))
      (printed dialect (pieces dialect (.createEnumType other others)))
      (name = other ∧ values = others) :=
  .words_name (by decide) fun _ => .words_cons (.closed (.literals (by decide) (by decide)))

theorem agree_commentOnColumn {table other column name comment note : String} :
    AgreeOnlyIf words (printed dialect (pieces dialect (.commentOnColumn table column comment)))
      (printed dialect (pieces dialect (.commentOnColumn other name note)))
      (table = other ∧ column = name ∧ comment = note) := by
  have hcomment : AgreeOnlyIf words (printed dialect ([.literal comment] ++ [.words ";"]))
      (printed dialect ([.literal note] ++ [.words ";"])) (comment = note) :=
    .closed (.literal (by decide))
  exact .words_name (by decide) fun _ => .words_name (by decide) fun _ => .words_cons hcomment

/-- The name of the index says nothing new. -/
theorem agree_createIndex {table other column name : String} :
    AgreeOnlyIf words (printed dialect (pieces dialect (.createIndex table column)))
      (printed dialect (pieces dialect (.createIndex other name)))
      (table = other ∧ column = name) := by
  refine (AgreeOnlyIf.words_name (by decide) fun _ => .words_name (by decide) fun _ =>
    .words_name (by decide) fun _ => .refl trivial).imp ?_
  rintro ⟨-, htable, hcolumn, -⟩
  exact ⟨htable, hcolumn⟩

theorem agree_addUnique {table other column name : String} :
    AgreeOnlyIf words (printed dialect (pieces dialect (.addUnique table column)))
      (printed dialect (pieces dialect (.addUnique other name)))
      (table = other ∧ column = name) := by
  refine (AgreeOnlyIf.words_name (by decide) fun _ => .words_name (by decide) fun _ =>
    .words_name (by decide) fun _ => .refl trivial).imp ?_
  rintro ⟨htable, -, hcolumn, -⟩
  exact ⟨htable, hcolumn⟩

theorem agree_addForeignKey {table other column name target targetOther key keyOther : String} :
    AgreeOnlyIf words (printed dialect (pieces dialect (.addForeignKey table column target key)))
      (printed dialect (pieces dialect (.addForeignKey other name targetOther keyOther)))
      (table = other ∧ column = name ∧ target = targetOther ∧ key = keyOther) := by
  refine (AgreeOnlyIf.words_name (by decide) fun _ => .words_name (by decide) fun _ =>
    .words_name (by decide) fun _ => .words_name (by decide) fun _ =>
      .words_name (by decide) fun _ => .refl trivial).imp ?_
  rintro ⟨htable, -, hcolumn, htarget, hkey, -⟩
  exact ⟨htable, hcolumn, htarget, hkey⟩

theorem agree_dropTable {name other : String} :
    AgreeOnlyIf words (printed dialect (pieces dialect (.dropTable name)))
      (printed dialect (pieces dialect (.dropTable other))) (name = other) :=
  (AgreeOnlyIf.words_name (by decide) fun _ => .refl trivial).imp And.left

theorem agree_dropType {name other : String} :
    AgreeOnlyIf words (printed dialect (pieces dialect (.dropType name)))
      (printed dialect (pieces dialect (.dropType other))) (name = other) :=
  (AgreeOnlyIf.words_name (by decide) fun _ => .refl trivial).imp And.left

/-- A column that is added to a table. -/
def addedPieces (dialect : Dialect) (column : ColumnDefinition) : List Piece :=
  .words "add column " :: column.pieces dialect

theorem agree_addColumns {table other : String} {columns others : List ColumnDefinition}
    (hfirst : HasNoRaw (.addColumns table columns))
    (hsecond : HasNoRaw (.addColumns other others)) :
    AgreeOnlyIf words (printed dialect (pieces dialect (.addColumns table columns)))
      (printed dialect (pieces dialect (.addColumns other others)))
      (table = other ∧ columns.map (ColumnDefinition.shown dialect) =
        others.map (ColumnDefinition.shown dialect)) := by
  have hcolumns : AgreeOnlyIf [";"]
      (printed dialect (listed (columns.map (addedPieces dialect))))
      (printed dialect (listed (others.map (addedPieces dialect))))
      (columns.map (ColumnDefinition.shown dialect) =
        others.map (ColumnDefinition.shown dialect)) := by
    refine .list (by decide) (fun column => ?_) fun column hcolumn added hadded => ?_
    · have hapart : ∀ word ∈ [";"], Apart "add column " word := by decide
      exact not_startsWith_words hapart (column.pieces dialect)
    · have hends : [", ", ";"] ⊆ ColumnDefinition.ends := by decide
      exact .words_cons ((ColumnDefinition.agree (hfirst column hcolumn)
        (hsecond added hadded)).mono hends)
  exact .words_name (by decide) fun _ => .words_cons (.closed hcolumns)

/-- A constraint is added in other words than columns. -/
theorem addColumns_apart {table other : String} {columns : List ColumnDefinition}
    {rest : List Piece} :
    AgreeOnlyIf words (printed dialect (pieces dialect (.addColumns table columns)))
      (printed dialect (.words "alter table " :: .name other :: .words " add constraint " :: rest))
      False := by
  have hstart : ∃ word ∈ ["add column ", ";"], ∃ behind,
      listed (columns.map (addedPieces dialect)) ++ [.words ";"] = .words word :: behind := by
    rcases columns with _ | ⟨column, _ | ⟨next, columns⟩⟩
    · exact ⟨";", by decide, _, rfl⟩
    · exact ⟨"add column ", by decide, _, rfl⟩
    · exact ⟨"add column ", by decide, _, rfl⟩
  have hsame : AgreeOnlyIf words
      (printed dialect (.words " " :: (listed (columns.map (addedPieces dialect)) ++ [.words ";"])))
      (printed dialect (.words (" " ++ "add constraint ") :: rest)) False := by
    obtain ⟨word, hword, behind, heq⟩ := hstart
    have hapart : ∀ word ∈ ["add column ", ";"], Apart word "add constraint " := by decide
    rw [heq]
    exact .words_append_right (.words_cons (.of_apart (hapart word hword)))
  exact (AgreeOnlyIf.words_cons (.name_words (by decide) (by decide) fun _ => hsame)).imp And.right

theorem addUnique_apart {table other column name target key : String} :
    AgreeOnlyIf words (printed dialect (pieces dialect (.addUnique table column)))
      (printed dialect (pieces dialect (.addForeignKey other name target key))) False := by
  have hapart : Apart " unique (" " foreign key (" := by decide
  exact (AgreeOnlyIf.words_name (by decide) fun _ => .words_cons
    (.name_words (by decide) (by decide) fun _ => .of_apart hapart)).imp fun h => h.2.2

/-- The text of a statement tells the statement, as far as the dialect writes it. -/
theorem agree {first second : Statement} (hfirst : first.HasNoRaw) (hsecond : second.HasNoRaw) :
    AgreeOnlyIf words (printed dialect (first.pieces dialect))
      (printed dialect (second.pieces dialect)) (first.Alike dialect second) := by
  cases first <;> cases second
  case createEnumType.createEnumType =>
    exact agree_createEnumType.imp fun ⟨hname, hvalues⟩ => by rw [hname, hvalues]; rfl
  case createTable.createTable => exact agree_createTable hfirst hsecond
  case commentOnColumn.commentOnColumn =>
    exact agree_commentOnColumn.imp fun ⟨htable, hcolumn, hcomment⟩ => by
      rw [htable, hcolumn, hcomment]; rfl
  case createIndex.createIndex =>
    exact agree_createIndex.imp fun ⟨htable, hcolumn⟩ => by rw [htable, hcolumn]; rfl
  case addUnique.addUnique =>
    exact agree_addUnique.imp fun ⟨htable, hcolumn⟩ => by rw [htable, hcolumn]; rfl
  case addUnique.addColumns => exact addColumns_apart.symm.imp False.elim
  case addUnique.addForeignKey => exact addUnique_apart.imp False.elim
  case addColumns.addUnique => exact addColumns_apart.imp False.elim
  case addColumns.addColumns => exact agree_addColumns hfirst hsecond
  case addColumns.addForeignKey => exact addColumns_apart.imp False.elim
  case addForeignKey.addUnique => exact addUnique_apart.symm.imp False.elim
  case addForeignKey.addColumns => exact addColumns_apart.symm.imp False.elim
  case addForeignKey.addForeignKey =>
    exact agree_addForeignKey.imp fun ⟨htable, hcolumn, htarget, hkey⟩ => by
      rw [htable, hcolumn, htarget, hkey]; rfl
  case dropTable.dropTable => exact agree_dropTable.imp fun hname => by rw [hname]; rfl
  case dropType.dropType => exact agree_dropType.imp fun hname => by rw [hname]; rfl
  -- All other statements of different kinds start with different words.
  all_goals exact .of_apart (by decide)

end Statement

end Legible

/-! ## What is alike is written alike -/

section Alike

variable {dialect : Dialect}

theorem map_eq_map_of_shown {α β γ : Type} {shown : α → β} {f : α → γ} {g : β → γ}
    (hf : ∀ item, g (shown item) = f item) {items others : List α}
    (h : items.map shown = others.map shown) : items.map f = others.map f := by
  have hmap : ∀ items : List α, items.map f = (items.map shown).map g := by
    intro items
    rw [List.map_map]
    exact List.map_congr_left fun item _ => (hf item).symm
  rw [hmap, hmap, h]

theorem map_pieces_eq_of_shown {columns others : List ColumnDefinition}
    (h : columns.map (ColumnDefinition.shown dialect) =
      others.map (ColumnDefinition.shown dialect)) :
    columns.map (ColumnDefinition.pieces dialect) = others.map (ColumnDefinition.pieces dialect) :=
  map_eq_map_of_shown ColumnDefinition.pieces_shown h

/-- The constraint of a range, by the texts of its bounds. -/
def Check.shownPieces (table : String) : String × Option String × Option String → List Piece
  | (column, minimum?, maximum?) =>
    .words "constraint " :: .name (constraintName table column "check") ::
      .words " check (" ::
        separated " and " ((limitsOf minimum? maximum?).map (limitPieces column)) ++ [.words ")"]

theorem Check.shownPieces_shown (table : String) (check : Check) :
    shownPieces table check.shown = check.pieces table := by
  rw [pieces, bounds_eq]
  rfl

theorem TableDefinition.Alike.parts_eq {first second : TableDefinition}
    (h : first.Alike dialect second) : first.parts dialect = second.parts dialect := by
  have hchecks := map_eq_map_of_shown (Check.shownPieces_shown second.name) h.checks
  rw [parts, parts, h.name, map_pieces_eq_of_shown h.columns, hchecks, h.primaryKey]

theorem Statement.Alike.pieces_eq {first second : Statement} (h : first.Alike dialect second) :
    first.pieces dialect = second.pieces dialect := by
  cases first with
  | createTable table =>
      cases second with
      | createTable other =>
          have htable : table.Alike dialect other := h
          rw [pieces, pieces, htable.parts_eq, htable.name]
      | _ => cases h
  | addColumns table columns =>
      cases second with
      | addColumns other others =>
          obtain ⟨htable, hcolumns⟩ := h
          have hpieces : ∀ column : ColumnDefinition,
              Statement.addedPieces dialect (column.shown dialect) =
                Statement.addedPieces dialect column := by
            intro column
            rw [Statement.addedPieces, Statement.addedPieces, column.pieces_shown]
          have hadded := map_eq_map_of_shown hpieces hcolumns
          rw [htable]
          exact congrArg (fun parts => .words "alter table " :: .name other :: .words " " ::
            listed parts ++ [.words ";"]) hadded
      | _ => cases h
  | _ =>
      cases second <;> cases h
      rfl

end Alike

/-- Two statements without expressions for defaults have the same text exactly if they are the same
statement, up to what the dialect does not write. -/
theorem text_eq_iff_alike (dialect : Dialect) {first second : Statement}
    (hfirst : first.HasNoRaw) (hsecond : second.HasNoRaw) :
    first.text dialect = second.text dialect ↔ first.Alike dialect second := by
  constructor
  · intro h
    have hchars := congrArg String.toList h
    rw [toList_statement_text, toList_statement_text] at hchars
    have hend : StartsWith [""] [] := ⟨"", List.mem_cons_self, List.nil_prefix⟩
    exact (Statement.agree hfirst hsecond hend hend (congrArg (· ++ []) hchars)).1
  · intro h
    rw [Statement.text, Statement.text, h.pieces_eq]

/-- Adds the column of a role to users. -/
def addRole (roles : List String) : Statement :=
  .addColumns "users"
    [{ name := "role", type := .enumeration "users_role_enum" roles, notNull := true,
       default := some (.literal "guest"), comment := some "what the user may do" }]

theorem hasNoRaw_addRole (roles : List String) : (addRole roles).HasNoRaw := by
  intro column hcolumn expression
  obtain rfl := List.mem_singleton.mp hcolumn
  exact nofun

/-- The roles are a part of the text only where they are not a type of their own. -/
theorem text_eq_iff_alike_roles :
    (addRole ["guest", "host"]).text .pg = (addRole ["guest"]).text .pg ∧
      (addRole ["guest", "host"]).text .mysql ≠ (addRole ["guest"]).text .mysql := by
  constructor
  · exact (text_eq_iff_alike .pg (hasNoRaw_addRole _) (hasNoRaw_addRole _)).mpr ⟨rfl, rfl⟩
  · intro h
    have halike := (text_eq_iff_alike .mysql (hasNoRaw_addRole _) (hasNoRaw_addRole _)).mp h
    exact absurd halike.2 (by decide)

end SchemaTables
