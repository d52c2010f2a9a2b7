import SchemaTables.Ddl.Text

/-!
# Reading scripts

A server cuts a script into statements at the semicolons that stand outside of quotes.  `Scan` is
this reading as a machine that takes one character after the other: what it keeps are the statements
that are complete, and of the statement at hand its text, the tokens between quotes and what the
quotes hold.

Between quotes a quote that is written twice stands for one.  In the one dialect that is all; in the
other a backslash between the quotes of a literal is an escape as well.
-/

namespace SchemaTables

/-- A part of a statement between quotes. -/
inductive Token
  | name (text : String)
  | literal (text : String)
  deriving DecidableEq

def Token.text : Token → String
  | .name text => text
  | .literal text => text

/-! ## The rules of a dialect -/

namespace Dialect

/-- The characters that open a token. -/
def quotes : Dialect → List Char
  | .pg => ['"', '\'']
  | .mysql => ['\x60', '\'', '"']

/-- Is a backslash an escape between such quotes? -/
def escapesIn : Dialect → Char → Bool
  | .pg, _ => false
  | .mysql, quote => quote != '\x60'

/-- The token whose text stands between such quotes. -/
def token (dialect : Dialect) (quote : Char) (text : List Char) : Token :=
  if quote = dialect.nameQuote then .name (String.ofList text) else .literal (String.ofList text)

theorem nameQuote_mem_quotes (dialect : Dialect) : dialect.nameQuote ∈ dialect.quotes := by
  cases dialect
  all_goals decide

theorem literalQuote_mem_quotes (dialect : Dialect) : literalQuote ∈ dialect.quotes := by
  cases dialect
  all_goals decide

theorem token_nameQuote (dialect : Dialect) (text : List Char) :
    dialect.token dialect.nameQuote text = .name (String.ofList text) :=
  if_pos rfl

theorem token_literalQuote (dialect : Dialect) (text : List Char) :
    dialect.token literalQuote text = .literal (String.ofList text) := by
  have hne : literalQuote ≠ dialect.nameQuote := by
    cases dialect
    all_goals decide
  exact if_neg hne

end Dialect

/-- What a backslash stands for together with the character behind it.  A character without a
meaning of its own stands for itself; the signs of patterns keep the backslash. -/
def unescaped (c : Char) : List Char :=
  if c = '0' then ['\x00']
  else if c = 'b' then ['\x08']
  else if c = 'n' then ['\n']
  else if c = 'r' then ['\r']
  else if c = 't' then ['\t']
  else if c = 'Z' then ['\x1a']
  else if c = '%' then ['\\', '%']
  else if c = '_' then ['\\', '_']
  else [c]

/-- Does every backslash in a text stand in front of a sign of patterns?  There it is kept. -/
def isHarmless : List Char → Bool
  | [] => true
  | [c] => c != '\\'
  | c :: d :: rest =>
    if c = '\\' then (d == '%' || d == '_') && isHarmless rest else isHarmless (d :: rest)

/-- Is a text between the quotes of literals read back as it is? -/
def Dialect.Keeps (dialect : Dialect) (text : String) : Prop :=
  dialect.escapesIn literalQuote = true → isHarmless text.toList = true

instance (dialect : Dialect) (text : String) : Decidable (dialect.Keeps text) :=
  inferInstanceAs (Decidable (_ → _))

/-! ## The machine -/

/-- Where a reader stands. -/
inductive ScanMode
  | outside
  /-- Between quotes, behind a text. -/
  | inside (quote : Char) (text : List Char)
  /-- Between quotes, behind a text and a backslash. -/
  | escape (quote : Char) (text : List Char)
  /-- Behind a quote that ends the token, unless it is written twice. -/
  | closing (quote : Char) (text : List Char)
  deriving DecidableEq

/-- A statement as it is read. -/
structure ScannedStatement where
  text : String
  tokens : List Token
  deriving DecidableEq

/-- What has been read of a script. -/
structure Scan where
  statements : List ScannedStatement := []
  /-- The text of the statement at hand. -/
  text : List Char := []
  /-- The tokens of the statement at hand that are closed. -/
  tokens : List Token := []
  mode : ScanMode := .outside
  deriving DecidableEq

namespace Scan

/-- Reads a character outside of quotes.  Line breaks between statements belong to none. -/
def readOutside (dialect : Dialect) (scan : Scan) (c : Char) : Scan :=
  if c = ';' then
    { statements := scan.statements ++ [⟨String.ofList (scan.text ++ [c]), scan.tokens⟩] }
  else if c = '\n' ∧ scan.text = [] then scan
  else
    { scan with
      text := scan.text ++ [c]
      mode := if c ∈ dialect.quotes then .inside c [] else .outside }

/-- A quote that was not written twice has closed its token. -/
def settle (dialect : Dialect) (scan : Scan) : Scan :=
  match scan.mode with
  | .closing quote text =>
    { scan with tokens := scan.tokens ++ [dialect.token quote text], mode := .outside }
  | _ => scan

def step (dialect : Dialect) (scan : Scan) (c : Char) : Scan :=
  match scan.mode with
  | .outside => scan.readOutside dialect c
  | .inside quote text =>
    { scan with
      text := scan.text ++ [c]
      mode :=
        if c = quote then .closing quote text
        else if c = '\\' ∧ dialect.escapesIn quote = true then .escape quote text
        else .inside quote (text ++ [c]) }
  | .escape quote text =>
    { scan with text := scan.text ++ [c], mode := .inside quote (text ++ unescaped c) }
  | .closing quote text =>
    if c = quote then
      { scan with text := scan.text ++ [c], mode := .inside quote (text ++ [c]) }
    else (scan.settle dialect).readOutside dialect c

def run (dialect : Dialect) (scan : Scan) (chars : List Char) : Scan :=
  chars.foldl (step dialect) scan

/-- A scan that has gone on over more of the statement at hand. -/
def add (scan : Scan) (chars : List Char) (tokens : List Token) : Scan :=
  { scan with text := scan.text ++ chars, tokens := scan.tokens ++ tokens }

end Scan

namespace Dialect

/-- The statements of a script, if the last one is complete. -/
def statements? (dialect : Dialect) (script : String) : Option (List ScannedStatement) :=
  let scan := Scan.run dialect {} script.toList
  if scan.mode = .outside ∧ scan.text = [] then some scan.statements else none

def tokens? (dialect : Dialect) (text : String) : Option (List Token) :=
  let scan := (Scan.run dialect {} text.toList).settle dialect
  if scan.mode = .outside ∧ scan.statements = [] then some scan.tokens else none

end Dialect

namespace Scan

variable {dialect : Dialect} {scan : Scan} {quote : Char} {acc : List Char}

/-! ## Runs -/

theorem run_append (scan : Scan) (first second : List Char) :
    scan.run dialect (first ++ second) = (scan.run dialect first).run dialect second :=
  List.foldl_append

theorem run_cons (scan : Scan) (c : Char) (rest : List Char) :
    scan.run dialect (c :: rest) = (scan.step dialect c).run dialect rest := rfl

theorem run_nil (scan : Scan) : scan.run dialect [] = scan := rfl

theorem add_add (scan : Scan) (first second : List Char) (tokens others : List Token) :
    (scan.add first tokens).add second others =
      scan.add (first ++ second) (tokens ++ others) := by
  simp [add]

theorem add_nil (scan : Scan) : scan.add [] [] = scan := by
  simp [add]

/-! ## Characters outside of quotes -/

/-- A character that opens no token, ends no statement and is no line break. -/
def IsPlain (c : Char) : Prop := c ∉ ['"', '\'', '\x60', ';', '\n']

def ArePlain (chars : List Char) : Prop := ∀ c ∈ chars, IsPlain c

instance : DecidablePred IsPlain := fun c =>
  inferInstanceAs (Decidable (¬ c ∈ ['"', '\'', '\x60', ';', '\n']))

instance (chars : List Char) : Decidable (ArePlain chars) :=
  List.decidableBAll IsPlain chars

theorem arePlain_append {first second : List Char} :
    ArePlain (first ++ second) ↔ ArePlain first ∧ ArePlain second :=
  List.forall_mem_append

theorem not_mem_quotes_of_isPlain {c : Char} (hc : IsPlain c) : c ∉ dialect.quotes := by
  intro hmem
  apply hc
  cases dialect with
  | pg =>
      simp only [Dialect.quotes, List.mem_cons, List.not_mem_nil, or_false] at hmem
      rcases hmem with rfl | rfl
      all_goals decide
  | mysql =>
      simp only [Dialect.quotes, List.mem_cons, List.not_mem_nil, or_false] at hmem
      rcases hmem with rfl | rfl | rfl
      all_goals decide

theorem step_of_isPlain (hscan : scan.mode = .outside) {c : Char} (hc : IsPlain c) :
    scan.step dialect c = scan.add [c] [] := by
  have hquote : c ∉ dialect.quotes := not_mem_quotes_of_isPlain hc
  simp only [IsPlain, List.mem_cons, List.not_mem_nil, or_false, not_or] at hc
  obtain ⟨-, -, -, hsemicolon, hbreak⟩ := hc
  rw [step, hscan]
  simp [readOutside, add, hsemicolon, hbreak, hquote, hscan]

theorem run_of_arePlain (hscan : scan.mode = .outside) {chars : List Char}
    (h : ArePlain chars) : scan.run dialect chars = scan.add chars [] := by
  induction chars generalizing scan with
  | nil => rw [run_nil, add_nil]
  | cons c rest ih =>
      obtain ⟨hc, hrest⟩ := List.forall_mem_cons.mp h
      have hnext : (scan.add [c] []).mode = .outside := hscan
      rw [run_cons, step_of_isPlain hscan hc, ih hnext hrest, add_add]
      rfl

/-! ## Between tokens -/

/-- The reader stands outside of quotes, or behind the quote that closes a token. -/
def Rests (dialect : Dialect) (scan : Scan) : Prop :=
  scan.mode = .outside ∨ ∃ quote ∈ dialect.quotes, ∃ text, scan.mode = .closing quote text

theorem settle_of_outside (h : scan.mode = .outside) : scan.settle dialect = scan := by
  rw [settle, h]

theorem Rests.mode_settle (h : scan.Rests dialect) : (scan.settle dialect).mode = .outside := by
  rcases h with houtside | ⟨quote, -, text, hclosing⟩
  · rw [settle_of_outside houtside, houtside]
  · rw [settle, hclosing]

/-- A character that is no quote settles what stands before it. -/
theorem Rests.step_settle (h : scan.Rests dialect) {c : Char} (hc : c ∉ dialect.quotes) :
    scan.step dialect c = (scan.settle dialect).step dialect c := by
  rcases h with houtside | ⟨quote, hquote, text, hclosing⟩
  · rw [settle_of_outside houtside]
  · have hne : c ≠ quote := fun heq => hc (heq ▸ hquote)
    have hsettled : (scan.settle dialect).mode = .outside := by rw [settle, hclosing]
    rw [step, hclosing]
    dsimp only
    rw [if_neg hne, step, hsettled]

theorem Rests.run_of_arePlain (h : scan.Rests dialect) {chars : List Char} (hne : chars ≠ [])
    (hplain : ArePlain chars) :
    scan.run dialect chars = (scan.settle dialect).add chars [] := by
  obtain ⟨c, rest, rfl⟩ := List.exists_cons_of_ne_nil hne
  have hc : IsPlain c := hplain c List.mem_cons_self
  rw [run_cons, h.step_settle (not_mem_quotes_of_isPlain hc), ← run_cons]
  exact Scan.run_of_arePlain h.mode_settle hplain

/-- At a semicolon outside of quotes the statement at hand is complete. -/
theorem Rests.run_semicolon (h : scan.Rests dialect) {chars : List Char}
    (hplain : ArePlain chars) :
    scan.run dialect (chars ++ [';']) =
      { statements := (scan.settle dialect).statements ++
          [⟨String.ofList ((scan.settle dialect).text ++ chars ++ [';']),
            (scan.settle dialect).tokens⟩] } := by
  have hend : ∀ next : Scan, next.mode = .outside → next.run dialect [';'] =
      { statements := next.statements ++ [⟨String.ofList (next.text ++ [';']), next.tokens⟩] } := by
    intro next hnext
    rw [run_cons, run_nil, step, hnext]
    exact if_pos rfl
  by_cases hchars : chars = []
  · subst hchars
    have hsemicolon : ';' ∉ dialect.quotes := by
      cases dialect
      all_goals decide
    rw [List.nil_append, run_cons, h.step_settle hsemicolon, ← run_cons, hend _ h.mode_settle,
      List.append_nil]
  · have houtside : ((scan.settle dialect).add chars []).mode = .outside := h.mode_settle
    rw [run_append, h.run_of_arePlain hchars hplain, hend _ houtside]
    simp [add]

/-! ## Between quotes -/

/-- A reader between quotes that has gone on over more of the token. -/
def within (scan : Scan) (chars : List Char) (mode : ScanMode) : Scan :=
  { scan with text := scan.text ++ chars, mode }

theorem within_within (first second : List Char) (mode next : ScanMode) :
    (scan.within first mode).within second next = scan.within (first ++ second) next := by
  simp [within]

theorem within_nil {mode : ScanMode} (h : scan.mode = mode) : scan.within [] mode = scan := by
  rw [within, List.append_nil, ← h]

theorem step_inside (h : scan.mode = .inside quote acc) {c : Char} (hquote : c ≠ quote)
    (hescape : c ≠ '\\' ∨ dialect.escapesIn quote = false) :
    scan.step dialect c = scan.within [c] (.inside quote (acc ++ [c])) := by
  have hplain : ¬ (c = '\\' ∧ dialect.escapesIn quote = true) := by
    rintro ⟨hc, htrue⟩
    rcases hescape with hne | hfalse
    · exact hne hc
    · rw [hfalse] at htrue
      exact Bool.noConfusion htrue
  simp only [step, h, if_neg hquote, if_neg hplain, within]

theorem run_quote_quote (h : scan.mode = .inside quote acc) :
    scan.run dialect [quote, quote] =
      scan.within [quote, quote] (.inside quote (acc ++ [quote])) := by
  simp [run, step, h, within]

/-- A quote inside a text is read back from the two that stand for it. -/
theorem run_doubled_quote (h : scan.mode = .inside quote acc) (rest : List Char) :
    scan.run dialect (Text.doubled quote (quote :: rest)) =
      (scan.within [quote, quote] (.inside quote (acc ++ [quote]))).run dialect
        (Text.doubled quote rest) := by
  have hdoubled : Text.doubled quote (quote :: rest) =
      [quote, quote] ++ Text.doubled quote rest := by
    rw [Text.doubled, if_pos rfl, List.cons_append, List.cons_append, List.nil_append]
  rw [hdoubled, run_append, run_quote_quote h]

theorem run_doubled_cons (h : scan.mode = .inside quote acc) {c : Char} (hquote : c ≠ quote)
    (hescape : c ≠ '\\' ∨ dialect.escapesIn quote = false) (rest : List Char) :
    scan.run dialect (Text.doubled quote (c :: rest)) =
      (scan.within [c] (.inside quote (acc ++ [c]))).run dialect (Text.doubled quote rest) := by
  rw [Text.doubled, if_neg hquote, run_cons, step_inside h hquote hescape]

/-- A text is read back from its quoted form where a backslash is no escape. -/
theorem run_doubled (hescapes : dialect.escapesIn quote = false) (text : List Char)
    (h : scan.mode = .inside quote acc) :
    scan.run dialect (Text.doubled quote text) =
      scan.within (Text.doubled quote text) (.inside quote (acc ++ text)) := by
  induction text generalizing scan acc with
  | nil => rw [Text.doubled, run_nil, List.append_nil, within_nil h]
  | cons c rest ih =>
      by_cases hc : c = quote
      · subst hc
        rw [run_doubled_quote h, ih rfl, within_within, List.append_assoc]
        simp [Text.doubled]
      · rw [run_doubled_cons h hc (Or.inr hescapes), ih rfl, within_within, List.append_assoc]
        simp [Text.doubled, hc]

/-! ## Whole tokens -/

theorem step_quote (h : scan.mode = .outside) (hquote : quote ∈ dialect.quotes) :
    scan.step dialect quote = scan.within [quote] (.inside quote []) := by
  have hsemicolon : quote ≠ ';' := by
    rintro rfl
    cases dialect
    all_goals exact absurd hquote (by decide)
  have hbreak : quote ≠ '\n' := by
    rintro rfl
    cases dialect
    all_goals exact absurd hquote (by decide)
  simp only [step, h, readOutside, if_neg hsemicolon, hbreak, false_and, if_false, if_pos hquote,
    within]

theorem settle_closing (h : scan.mode = .outside) (chars text : List Char) :
    (scan.within chars (.closing quote text)).settle dialect =
      scan.add chars [dialect.token quote text] := by
  simp only [settle, within, add, h]

theorem run_quoted (h : scan.mode = .outside) (hquote : quote ∈ dialect.quotes) {text : String}
    (hread : ∀ scan : Scan, scan.mode = .inside quote [] →
      scan.run dialect (Text.doubled quote text.toList) =
        scan.within (Text.doubled quote text.toList) (.inside quote ([] ++ text.toList))) :
    scan.run dialect (Text.quoted quote text).toList =
      scan.within (Text.quoted quote text).toList (.closing quote text.toList) := by
  have hclose : ∀ chars : List Char,
      (scan.within chars (.inside quote text.toList)).step dialect quote =
        scan.within (chars ++ [quote]) (.closing quote text.toList) := by
    intro chars
    simp [step, within]
  rw [Text.quoted, String.toList_ofList, run_cons, step_quote h hquote, run_append, hread _ rfl,
    within_within, List.nil_append, run_cons, hclose, run_nil]
  rfl

theorem run_quoted_name (h : scan.mode = .outside) (text : String) :
    scan.run dialect (Text.quoted dialect.nameQuote text).toList =
      scan.within (Text.quoted dialect.nameQuote text).toList
        (.closing dialect.nameQuote text.toList) := by
  have hescapes : dialect.escapesIn dialect.nameQuote = false := by
    cases dialect
    all_goals decide
  exact run_quoted h dialect.nameQuote_mem_quotes fun _ hinside => run_doubled hescapes _ hinside

end Scan

namespace Dialect

/-- A name between its quotes is read back in either dialect. -/
theorem tokens?_name (dialect : Dialect) (text : String) :
    dialect.tokens? (Text.quoted dialect.nameQuote text) = some [.name text] := by
  have hrun := @Scan.run_quoted_name dialect {} rfl text
  rw [tokens?, hrun, Scan.settle_closing rfl, token_nameQuote, String.ofList_toList]
  rfl

end Dialect

end SchemaTables
