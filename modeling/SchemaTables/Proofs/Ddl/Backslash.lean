import SchemaTables.Proofs.Ddl.Scanning

/-!
# Backslashes in literals

Where a backslash between quotes is an escape, it is read together with the character behind it.  It
stays in the text only in front of the two signs of patterns; everywhere else something is lost, and
a backslash at the end of a text takes the quote that should close the literal.  A literal is thus
read back as it was written exactly if its backslashes are harmless (`Dialect.tokens?_literal_iff`).
-/

namespace SchemaTables

namespace Scan

variable {dialect : Dialect} {scan : Scan} {quote : Char} {acc : List Char}

/-! ## Harmless backslashes -/

theorem isHarmless_cons {c : Char} (hc : c ≠ '\\') (rest : List Char) :
    isHarmless (c :: rest) = isHarmless rest := by
  cases rest with
  | nil => simp [isHarmless, hc]
  | cons d rest => rw [isHarmless, if_neg hc]

theorem isHarmless_escape (d : Char) (rest : List Char) :
    isHarmless ('\\' :: d :: rest) = ((d == '%' || d == '_') && isHarmless rest) := by
  rw [isHarmless, if_pos rfl]

/-- Texts are taken apart at their backslashes. -/
theorem backslash_induction {motive : List Char → Prop} (nil : motive [])
    (cons : ∀ c rest, c ≠ '\\' → motive rest → motive (c :: rest)) (last : motive ['\\'])
    (escape : ∀ d rest, motive rest → motive ('\\' :: d :: rest)) :
    ∀ text, motive text
  | [] => nil
  | [c] => by
      by_cases hc : c = '\\'
      · exact hc ▸ last
      · exact cons c [] hc nil
  | c :: d :: rest => by
      by_cases hc : c = '\\'
      · exact hc ▸ escape d rest (backslash_induction nil cons last escape rest)
      · exact cons c (d :: rest) hc (backslash_induction nil cons last escape (d :: rest))

/-- In front of a sign of patterns a backslash is kept. -/
theorem unescaped_of_sign {d : Char} (h : d = '%' ∨ d = '_') :
    unescaped d = ['\\', d] ∧ d ≠ literalQuote := by
  rcases h with rfl | rfl
  all_goals decide

theorem run_escape (hescapes : dialect.escapesIn quote = true) (hquote : '\\' ≠ quote)
    (h : scan.mode = .inside quote acc) (c : Char) :
    scan.run dialect ['\\', c] =
      scan.within ['\\', c] (.inside quote (acc ++ unescaped c)) := by
  simp [run, step, h, within, hescapes, hquote]

/-- The two characters of an escape stand as they are, but for a quote that is doubled. -/
theorem doubled_escape (d : Char) (rest : List Char) :
    Text.doubled literalQuote ('\\' :: d :: rest) =
      ['\\', d] ++ if d = literalQuote then literalQuote :: Text.doubled literalQuote rest
        else Text.doubled literalQuote rest := by
  have hbackslash : '\\' ≠ literalQuote := by decide
  rw [Text.doubled, if_neg hbackslash, Text.doubled]
  by_cases hd : d = literalQuote
  · rw [if_pos hd, if_pos hd, hd]
    rfl
  · rw [if_neg hd, if_neg hd]
    rfl

/-- A literal that is kept is read back from its quoted form. -/
theorem run_doubled_literal {text : List Char}
    (hkept : dialect.escapesIn literalQuote = true → isHarmless text = true)
    (h : scan.mode = .inside literalQuote acc) :
    scan.run dialect (Text.doubled literalQuote text) =
      scan.within (Text.doubled literalQuote text) (.inside literalQuote (acc ++ text)) := by
  by_cases hescapes : dialect.escapesIn literalQuote = true
  · have hharmless := hkept hescapes
    clear hkept
    induction text using backslash_induction generalizing scan acc with
    | nil => rw [Text.doubled, run_nil, List.append_nil, within_nil h]
    | cons c rest hc ih =>
        rw [isHarmless_cons hc] at hharmless
        by_cases hquote : c = literalQuote
        · subst hquote
          rw [run_doubled_quote h, ih rfl hharmless, within_within, List.append_assoc]
          simp [Text.doubled]
        · rw [run_doubled_cons h hquote (Or.inl hc), ih rfl hharmless, within_within,
            List.append_assoc]
          simp [Text.doubled, hquote]
    | last => exact absurd hharmless (by decide)
    | escape d rest ih =>
        rw [isHarmless_escape, Bool.and_eq_true, Bool.or_eq_true, beq_iff_eq, beq_iff_eq]
          at hharmless
        obtain ⟨hsign, hrest⟩ := hharmless
        have hkept := unescaped_of_sign hsign
        rw [doubled_escape, if_neg hkept.2, run_append, run_escape hescapes (by decide) h,
          hkept.1, ih rfl hrest, within_within, List.append_assoc]
        rfl
  · exact run_doubled (Bool.not_eq_true _ ▸ hescapes) text h

theorem run_quoted_literal (h : scan.mode = .outside) {text : String}
    (hkept : dialect.Keeps text) :
    scan.run dialect (Text.quoted literalQuote text).toList =
      scan.within (Text.quoted literalQuote text).toList (.closing literalQuote text.toList) :=
  run_quoted h (dialect.literalQuote_mem_quotes) fun _ hinside =>
    run_doubled_literal hkept hinside

/-! ## What a text can become

Apart from quotes, a reader never keeps more characters in tokens than it has read, and one fewer
where a backslash is lost.
-/

/-- The characters of a text that are no quotes of literals. -/
def solid (chars : List Char) : Nat := chars.countP (· != literalQuote)

theorem solid_append (first second : List Char) :
    solid (first ++ second) = solid first + solid second :=
  List.countP_append

theorem solid_cons (c : Char) (rest : List Char) : solid (c :: rest) = solid [c] + solid rest :=
  solid_append [c] rest

theorem solid_doubled_cons {c : Char} (hc : c ≠ literalQuote) (rest : List Char) :
    solid (Text.doubled literalQuote (c :: rest)) =
      1 + solid (Text.doubled literalQuote rest) := by
  rw [Text.doubled, if_neg hc, solid, List.countP_cons_of_pos (by simpa using hc), solid,
    Nat.add_comm]

theorem solid_doubled (text : List Char) :
    solid (Text.doubled literalQuote text) = solid text := by
  induction text with
  | nil => rfl
  | cons c rest ih =>
      by_cases hc : c = literalQuote
      · subst hc
        simpa [Text.doubled, solid] using ih
      · rw [solid_doubled_cons hc, ih, solid, solid,
          List.countP_cons_of_pos (by simpa using hc), Nat.add_comm]

end Scan

/-- What a token that is not closed holds, with the backslash that may yet be kept. -/
def ScanMode.weight : ScanMode → Nat
  | .outside => 0
  | .inside _ text | .closing _ text => Scan.solid text
  | .escape _ text => Scan.solid text + 1

namespace Scan

variable {dialect : Dialect} {scan : Scan} {quote : Char} {acc : List Char}

/-- What the tokens of the statement at hand hold. -/
def weight (scan : Scan) : Nat :=
  solid (scan.tokens.flatMap fun token => token.text.toList) + scan.mode.weight

theorem solid_unescaped_le (c : Char) : solid (unescaped c) ≤ 1 + solid [c] := by
  have hkept : c ≠ literalQuote → solid [c] = 1 := by
    intro hc
    simpa [solid] using hc
  unfold unescaped
  repeat' split
  all_goals first | (subst_vars; decide) | omega

theorem solid_unescaped_lt {c : Char} (hc : ¬ (c = '%' ∨ c = '_')) :
    solid (unescaped c) < 1 + solid [c] := by
  rw [not_or] at hc
  unfold unescaped
  repeat' split
  all_goals first | (subst_vars; decide) | exact absurd ‹_› hc.1 | exact absurd ‹_› hc.2 | omega

theorem weight_readOutside_le (dialect : Dialect) (scan : Scan) (c : Char) :
    (scan.readOutside dialect c).weight ≤ scan.weight := by
  rw [readOutside]
  split
  · exact Nat.zero_le _
  · split
    · exact Nat.le_refl _
    · have hmode : (if c ∈ dialect.quotes then ScanMode.inside c [] else .outside).weight = 0 := by
        split
        all_goals rfl
      simp only [weight, hmode]
      exact Nat.le_add_right _ _

theorem weight_settle (dialect : Dialect) (scan : Scan) :
    (scan.settle dialect).weight = scan.weight := by
  rw [settle]
  split
  · next quote text hmode =>
      have htoken : (dialect.token quote text).text.toList = text := by
        rw [Dialect.token]
        split
        all_goals exact String.toList_ofList
      simp [weight, hmode, ScanMode.weight, htoken, solid_append]
  · rfl

theorem weight_step_le (dialect : Dialect) (scan : Scan) (c : Char) :
    (scan.step dialect c).weight ≤ scan.weight + solid [c] := by
  cases hmode : scan.mode with
  | outside =>
      have hread := weight_readOutside_le dialect scan c
      simp only [step, hmode]
      omega
  | inside quote text =>
      have hnext : (if c = quote then ScanMode.closing quote text
          else if c = '\\' ∧ dialect.escapesIn quote = true then .escape quote text
          else .inside quote (text ++ [c])).weight ≤ solid text + solid [c] := by
        split
        · exact Nat.le_add_right _ _
        · split
          · next hescape =>
              rw [hescape.1]
              exact Nat.le_refl _
          · exact Nat.le_of_eq (solid_append text [c])
      simp only [step, hmode, weight]
      rw [ScanMode.weight, Nat.add_assoc]
      exact Nat.add_le_add_left hnext _
  | escape quote text =>
      have hunescaped := solid_unescaped_le c
      simp only [step, hmode, weight, ScanMode.weight, solid_append]
      omega
  | closing quote text =>
      by_cases hc : c = quote
      · simp only [step, hmode, if_pos hc, weight, ScanMode.weight, solid_append]
        omega
      · have hread := weight_readOutside_le dialect (scan.settle dialect) c
        have hsettle := weight_settle dialect scan
        simp only [step, hmode, if_neg hc]
        omega

theorem weight_run_le (dialect : Dialect) (scan : Scan) (chars : List Char) :
    (scan.run dialect chars).weight ≤ scan.weight + solid chars := by
  induction chars generalizing scan with
  | nil => exact Nat.le_add_right _ _
  | cons c rest ih =>
      have hstep := weight_step_le dialect scan c
      have hrest := ih (scan.step dialect c)
      have hsolid := solid_cons c rest
      rw [run_cons]
      omega

/-- What a reader has kept when it goes on between the quotes of a token. -/
theorem weight_within (h : scan.mode = .inside quote acc) (chars kept : List Char) :
    (scan.within chars (.inside quote (acc ++ kept))).weight = scan.weight + solid kept := by
  simp only [within, weight, h, ScanMode.weight, solid_append]
  omega

/-- A backslash in front of a character that is no sign of patterns is lost. -/
theorem weight_run_escape_lt (hescapes : dialect.escapesIn literalQuote = true)
    (h : scan.mode = .inside literalQuote acc) {d : Char} (hsign : ¬ (d = '%' ∨ d = '_'))
    (rest : List Char) :
    (scan.run dialect (Text.doubled literalQuote ('\\' :: d :: rest) ++ [literalQuote])).weight <
      scan.weight + solid ('\\' :: d :: rest) := by
  have hunescaped := solid_unescaped_lt hsign
  have hweight := weight_within h ['\\', d] (unescaped d)
  have hbackslash : solid ['\\'] = 1 := by decide
  have hsolid : solid ('\\' :: d :: rest) = 1 + solid [d] + solid rest := by
    rw [solid_cons, solid_cons d, hbackslash, Nat.add_assoc]
  -- The quotes behind the escape add nothing, whether or not it has taken one of a pair.
  have hbehind : solid ((if d = literalQuote then literalQuote :: Text.doubled literalQuote rest
      else Text.doubled literalQuote rest) ++ [literalQuote]) = solid rest := by
    rw [solid_append, ← solid_doubled rest]
    split
    all_goals rfl
  have hrun := weight_run_le dialect
    (scan.within ['\\', d] (.inside literalQuote (acc ++ unescaped d)))
    ((if d = literalQuote then literalQuote :: Text.doubled literalQuote rest
      else Text.doubled literalQuote rest) ++ [literalQuote])
  rw [doubled_escape, List.append_assoc, run_append, run_escape hescapes (by decide) h]
  omega

/-- A backslash at the end takes the quote that should close the token. -/
theorem weight_run_last_lt (hescapes : dialect.escapesIn literalQuote = true)
    (h : scan.mode = .inside literalQuote acc) :
    (scan.run dialect (Text.doubled literalQuote ['\\'] ++ [literalQuote])).weight <
      scan.weight + solid ['\\'] := by
  have hrun : scan.run dialect (Text.doubled literalQuote ['\\'] ++ [literalQuote]) =
      scan.within ['\\', literalQuote]
        (.inside literalQuote (acc ++ unescaped literalQuote)) :=
    run_escape hescapes (by decide) h literalQuote
  have hlost : solid (unescaped literalQuote) < solid ['\\'] := by decide
  rw [hrun, weight_within h]
  exact Nat.add_lt_add_left hlost _

/-- A text whose backslashes are not all harmless never comes out whole. -/
theorem weight_run_lt (scan : Scan) (hescapes : dialect.escapesIn literalQuote = true)
    {text : List Char} (hharmless : ¬ isHarmless text = true)
    (h : scan.mode = .inside literalQuote acc) :
    (scan.run dialect (Text.doubled literalQuote text ++ [literalQuote])).weight <
      scan.weight + solid text := by
  -- What stands before the first backslash that is not harmless is kept as it is.
  induction text using backslash_induction generalizing scan acc with
  | nil => exact absurd rfl hharmless
  | cons c rest hc ih =>
      rw [isHarmless_cons hc] at hharmless
      have hsolid := solid_cons c rest
      by_cases hquote : c = literalQuote
      · subst hquote
        have hlt := ih (scan.within [literalQuote, literalQuote]
          (.inside literalQuote (acc ++ [literalQuote]))) hharmless rfl
        rw [weight_within h] at hlt
        rw [run_append, run_doubled_quote h, ← run_append]
        omega
      · have hlt := ih (scan.within [c] (.inside literalQuote (acc ++ [c]))) hharmless rfl
        rw [weight_within h] at hlt
        rw [run_append, run_doubled_cons h hquote (Or.inl hc), ← run_append]
        omega
  | last => exact weight_run_last_lt hescapes h
  | escape d rest ih =>
      by_cases hsign : d = '%' ∨ d = '_'
      · have hrest : ¬ isHarmless rest = true := by
          intro hrest
          apply hharmless
          rw [isHarmless_escape, hrest]
          simpa using hsign
        have hkept := unescaped_of_sign hsign
        have hlt := ih (scan.within ['\\', d]
          (.inside literalQuote (acc ++ unescaped d))) hrest rfl
        have hsolid : solid ('\\' :: d :: rest) = solid ['\\', d] + solid rest :=
          solid_append ['\\', d] rest
        rw [weight_within h, hkept.1] at hlt
        rw [doubled_escape, if_neg hkept.2, List.append_assoc, run_append,
          run_escape hescapes (by decide) h, hkept.1]
        omega
      · exact weight_run_escape_lt hescapes h hsign rest

end Scan

namespace Dialect

/-- The tokens that a text is read as hold what the reader has kept. -/
theorem weight_of_tokens? {dialect : Dialect} {text literal : String}
    (h : dialect.tokens? text = some [.literal literal]) :
    (Scan.run dialect {} text.toList).weight = Scan.solid literal.toList := by
  rw [tokens?] at h
  split at h
  · next hsettled =>
      have htokens := Option.some.inj h
      rw [← Scan.weight_settle dialect, Scan.weight, htokens, hsettled.1, List.flatMap_singleton]
      rfl
  · cases h

/-- A literal is read back as it was written if its backslashes are harmless, and only then. -/
theorem tokens?_literal_iff (dialect : Dialect) (text : String) :
    dialect.tokens? (Text.quoted literalQuote text) = some [.literal text] ↔
      dialect.Keeps text := by
  constructor
  · intro htokens hescapes
    have hweight := weight_of_tokens? htokens
    have hopen : Scan.run dialect {} (Text.quoted literalQuote text).toList =
        (Scan.within {} [literalQuote] (.inside literalQuote [])).run dialect
          (Text.doubled literalQuote text.toList ++ [literalQuote]) := by
      rw [Text.quoted, String.toList_ofList, Scan.run_cons,
        Scan.step_quote rfl (literalQuote_mem_quotes dialect)]
    by_cases hharmless : isHarmless text.toList = true
    · exact hharmless
    · have hlt := Scan.weight_run_lt
        (Scan.within {} [literalQuote] (.inside literalQuote [])) hescapes hharmless rfl
      have hstart : (Scan.within {} [literalQuote] (.inside literalQuote [])).weight = 0 := rfl
      rw [hopen] at hweight
      omega
  · intro hkept
    have hrun := @Scan.run_quoted_literal dialect {} rfl text hkept
    rw [tokens?, hrun, Scan.settle_closing rfl, token_literalQuote, String.ofList_toList]
    rfl

/-- A backslash in front of a letter is read as a line break. -/
example : Dialect.mysql.tokens? "'a\\nb'" = some [.literal "a\nb"] := by decide

end Dialect

end SchemaTables
