import SchemaTables.Proofs.Ddl.Tokens

/-!
# Legible texts

Two texts are compared together with what is written behind them.  Where both are the same, the texts
must say the same and end at the same place, if what stands behind starts with one of a few words
(`AgreeOnlyIf`).  This holds of names and literals before anything but a quote, and of numerals before
anything else.  It is kept by fixed words, optional clauses and lists.
-/

namespace SchemaTables

/-! ## What stands behind a text -/

/-- The characters start with one of the words. -/
def StartsWith (words : List String) (chars : List Char) : Prop :=
  ∃ word ∈ words, word.toList <+: chars

/-- Neither word is the start of the other. -/
def Apart (word other : String) : Prop :=
  ¬word.toList <+: other.toList ∧ ¬other.toList <+: word.toList

instance (word other : String) : Decidable (Apart word other) :=
  inferInstanceAs (Decidable (_ ∧ _))

/-- The word starts with a character that is not of the kind. -/
def StartsOutside (kind : Char → Bool) (word : String) : Prop :=
  word.toList.head?.any (fun c => !kind c) = true

instance (kind : Char → Bool) (word : String) : Decidable (StartsOutside kind word) :=
  inferInstanceAs (Decidable (_ = true))

/-- A character that names or literals are quoted with. -/
def isQuote (c : Char) : Bool := ['"', '\'', '\x60'].contains c

/-- A character that numbers are written with. -/
def isNumeral (c : Char) : Bool := decide (Decimal.IsNumeral c)

namespace StartsWith

variable {words others : List String} {word : String} {chars : List Char}

theorem mono (h : StartsWith words chars) (hsubset : words ⊆ others) : StartsWith others chars := by
  obtain ⟨word, hword, hprefix⟩ := h
  exact ⟨word, hsubset hword, hprefix⟩

theorem append_left (hword : word ∈ words) (rest : List Char) :
    StartsWith words (word.toList ++ rest) :=
  ⟨word, hword, List.prefix_append _ _⟩

theorem not_prefix (h : StartsWith words chars) (hapart : ∀ other ∈ words, Apart word other) :
    ¬word.toList <+: chars := by
  intro hprefix
  obtain ⟨other, hother, hstart⟩ := h
  rcases List.prefix_or_prefix_of_prefix hprefix hstart with hle | hle
  · exact (hapart other hother).1 hle
  · exact (hapart other hother).2 hle

theorem head? (h : StartsWith words chars) {kind : Char → Bool}
    (hkind : ∀ word ∈ words, StartsOutside kind word) :
    ∃ c rest, chars = c :: rest ∧ kind c = false := by
  obtain ⟨word, hword, behind, rfl⟩ := h
  have hstart := hkind word hword
  rw [StartsOutside] at hstart
  cases hchars : word.toList with
  | nil => rw [hchars] at hstart; cases hstart
  | cons c rest =>
      rw [hchars] at hstart
      exact ⟨c, rest ++ behind, rfl, by simpa using hstart⟩

end StartsWith

/-! ## Agreement of two texts -/

/-- If the texts are the same together with what stands behind them, then the statement is true and
the same stands behind both. -/
def AgreeOnlyIf (words : List String) (first second : List Char) (same : Prop) : Prop :=
  ∀ ⦃rest others⦄, StartsWith words rest → StartsWith words others →
    first ++ rest = second ++ others → same ∧ rest = others

namespace AgreeOnlyIf

variable {words middle : List String} {same more : Prop}
  {first second firstEnd secondEnd : List Char}

theorem imp (h : AgreeOnlyIf words first second same) (himp : same → more) :
    AgreeOnlyIf words first second more :=
  fun _ _ hrest hothers heq => (h hrest hothers heq).imp_left himp

theorem mono (h : AgreeOnlyIf middle first second same) (hsubset : words ⊆ middle) :
    AgreeOnlyIf words first second same :=
  fun _ _ hrest hothers heq => h (hrest.mono hsubset) (hothers.mono hsubset) heq

theorem symm (h : AgreeOnlyIf words first second same) : AgreeOnlyIf words second first same := by
  intro rest others hrest hothers heq
  obtain ⟨hsame, hbehind⟩ := h hothers hrest heq.symm
  exact ⟨hsame, hbehind.symm⟩

theorem refl (hsame : same) : AgreeOnlyIf words first first same :=
  fun _ _ _ _ heq => ⟨hsame, List.append_cancel_left heq⟩

theorem append (hstart : AgreeOnlyIf middle first second same)
    (hfirst : ∀ rest, StartsWith words rest → StartsWith middle (firstEnd ++ rest))
    (hsecond : ∀ rest, StartsWith words rest → StartsWith middle (secondEnd ++ rest))
    (hend : same → AgreeOnlyIf words firstEnd secondEnd more) :
    AgreeOnlyIf words (first ++ firstEnd) (second ++ secondEnd) (same ∧ more) := by
  intro rest others hrest hothers heq
  rw [List.append_assoc, List.append_assoc] at heq
  obtain ⟨hsame, hbehind⟩ := hstart (hfirst rest hrest) (hsecond others hothers) heq
  obtain ⟨hmore, hrests⟩ := hend hsame hrest hothers hbehind
  exact ⟨⟨hsame, hmore⟩, hrests⟩

theorem nil_left (hsecond : ∀ rest, ¬StartsWith words (second ++ rest)) :
    AgreeOnlyIf words [] second same := by
  intro rest others hrest _ heq
  rw [List.nil_append] at heq
  exact absurd (heq ▸ hrest) (hsecond others)

theorem span {kind : Char → Bool} (hfirst : ∀ c ∈ first, kind c = true)
    (hsecond : ∀ c ∈ second, kind c = true) (hwords : ∀ word ∈ words, StartsOutside kind word) :
    AgreeOnlyIf words first second (first = second) := by
  have htake : ∀ chars : List Char, (∀ c ∈ chars, kind c = true) → ∀ rest, StartsWith words rest →
      (chars ++ rest).takeWhile kind = chars := by
    intro chars hchars rest hrest
    obtain ⟨c, behind, rfl, hc⟩ := hrest.head? hwords
    rw [List.takeWhile_append_of_pos hchars, List.takeWhile_cons_of_neg (by simp [hc]),
      List.append_nil]
  intro rest others hrest hothers heq
  have hsame : first = second := by
    rw [← htake first hfirst rest hrest, heq, htake second hsecond others hothers]
  subst hsame
  exact ⟨rfl, List.append_cancel_left heq⟩

/-- A text between quotes, before anything but a quote. -/
theorem quoted {quote : Char} (hquote : isQuote quote = true) {text other : String}
    (hwords : ∀ word ∈ words, StartsOutside isQuote word) :
    AgreeOnlyIf words (Text.quoted quote text).toList (Text.quoted quote other).toList
      (text = other) := by
  have hread : ∀ (text : String) rest, StartsWith words rest →
      Text.unquote? quote (Text.doubled quote text.toList ++ quote :: rest) =
        some (text.toList, rest) := by
    intro text rest hrest
    obtain ⟨c, behind, rfl, hc⟩ := hrest.head? hwords
    refine Text.unquote?_doubled quote text.toList (c :: behind) ?_
    rintro heq
    obtain rfl := Option.some.inj heq
    rw [hquote] at hc
    cases hc
  intro rest others hrest hothers heq
  simp only [Text.quoted, String.toList_ofList, List.cons_append, List.append_assoc,
    List.nil_append, List.cons.injEq, true_and] at heq
  have hboth : some (text.toList, rest) = some (other.toList, others) := by
    rw [← hread text rest hrest, heq, hread other others hothers]
  obtain ⟨htext, hbehind⟩ := Prod.mk.inj (Option.some.inj hboth)
  exact ⟨String.toList_injective htext, hbehind⟩

end AgreeOnlyIf

/-! ## Pieces -/

section Pieces

variable {dialect : Dialect} {words : List String} {word other closing between : String}
  {first second : List Piece} {same : Prop} {α β : Type} {print : α → List Piece} {shown : α → β}

theorem startsWith_words (hword : word ∈ words) (pieces : List Piece) (rest : List Char) :
    StartsWith words (printed dialect (.words word :: pieces) ++ rest) := by
  rw [printed_cons, Piece.text, List.append_assoc]
  exact .append_left hword _

theorem not_startsWith_words (hapart : ∀ other ∈ words, Apart word other) (pieces : List Piece)
    (rest : List Char) :
    ¬StartsWith words (printed dialect (.words word :: pieces) ++ rest) := by
  intro hstart
  refine hstart.not_prefix hapart ?_
  rw [printed_cons, Piece.text, List.append_assoc]
  exact List.prefix_append _ _

theorem isQuote_nameQuote (dialect : Dialect) : isQuote dialect.nameQuote = true := by
  cases dialect <;> rfl

/-- Nothing that starts outside of quotes starts like a quoted text. -/
theorem not_startsWith_quoted (hwords : ∀ word ∈ words, StartsOutside isQuote word) {quote : Char}
    (hquote : isQuote quote = true) (text : String) (rest : List Char) :
    ¬StartsWith words ((Text.quoted quote text).toList ++ rest) := by
  intro hstart
  obtain ⟨c, behind, hchars, hc⟩ := hstart.head? hwords
  rw [Text.quoted, String.toList_ofList] at hchars
  obtain rfl := (List.cons.inj hchars).1
  rw [hquote] at hc
  cases hc

namespace AgreeOnlyIf

/-- The same words at the start tell nothing. -/
theorem words_cons (h : AgreeOnlyIf words (printed dialect first) (printed dialect second) same) :
    AgreeOnlyIf words (printed dialect (.words word :: first))
      (printed dialect (.words word :: second)) same := by
  intro rest others hrest hothers heq
  rw [printed_cons, printed_cons, List.append_assoc, List.append_assoc] at heq
  exact h hrest hothers (List.append_cancel_left heq)

theorem words_append_right (h : AgreeOnlyIf words (printed dialect first)
      (printed dialect (.words word :: .words other :: second)) same) :
    AgreeOnlyIf words (printed dialect first) (printed dialect (.words (word ++ other) :: second))
      same := by
  rw [printed_cons, printed_cons, ← List.append_assoc] at h
  rwa [printed_cons, Piece.text, String.toList_append]

/-- Different words at the start tell two texts apart. -/
theorem of_apart (h : Apart word other) :
    AgreeOnlyIf words (printed dialect (.words word :: first))
      (printed dialect (.words other :: second)) same := by
  intro rest others hrest hothers heq
  exfalso
  rw [printed_cons, printed_cons, List.append_assoc, List.append_assoc] at heq
  have hword : word.toList <+: other.toList ++ (printed dialect second ++ others) :=
    heq ▸ List.prefix_append _ _
  rcases List.prefix_or_prefix_of_prefix hword (List.prefix_append _ _) with hle | hle
  · exact h.1 hle
  · exact h.2 hle

theorem name_words {text name : String} (hword : StartsOutside isQuote word)
    (hother : StartsOutside isQuote other)
    (h : text = name → AgreeOnlyIf words (printed dialect (.words word :: first))
      (printed dialect (.words other :: second)) same) :
    AgreeOnlyIf words (printed dialect (.name text :: .words word :: first))
      (printed dialect (.name name :: .words other :: second)) (text = name ∧ same) := by
  have hquoted : AgreeOnlyIf [word, other] ((Piece.name text).text dialect).toList
      ((Piece.name name).text dialect).toList (text = name) := by
    apply quoted (isQuote_nameQuote dialect)
    simp only [List.forall_mem_cons, List.not_mem_nil, false_implies, implies_true, and_true]
    exact ⟨hword, hother⟩
  rw [printed_cons, printed_cons]
  exact hquoted.append (fun rest _ => startsWith_words List.mem_cons_self first rest)
    (fun rest _ => startsWith_words (List.mem_cons_of_mem _ List.mem_cons_self) second rest) h

theorem words_name {text name : String} (hother : StartsOutside isQuote other)
    (h : text = name → AgreeOnlyIf words (printed dialect (.words other :: first))
      (printed dialect (.words other :: second)) same) :
    AgreeOnlyIf words (printed dialect (.words word :: .name text :: .words other :: first))
      (printed dialect (.words word :: .name name :: .words other :: second))
      (text = name ∧ same) :=
  words_cons (name_words hother hother h)

/-- A name and words that start outside of quotes tell two texts apart. -/
theorem of_name_words {text : String} (hword : StartsOutside isQuote word) :
    AgreeOnlyIf words (printed dialect (.name text :: first))
      (printed dialect (.words word :: second)) same := by
  intro rest others _ _ heq
  have hstart : StartsWith [word] (printed dialect (.words word :: second) ++ others) :=
    startsWith_words List.mem_cons_self second others
  rw [← heq, printed_cons, List.append_assoc] at hstart
  exact absurd hstart (not_startsWith_quoted (List.forall_mem_singleton.mpr hword)
    (isQuote_nameQuote dialect) text _)

theorem name (hwords : ∀ word ∈ words, StartsOutside isQuote word) {text other : String} :
    AgreeOnlyIf words (printed dialect [.name text]) (printed dialect [.name other])
      (text = other) := by
  simpa [printed, Piece.text] using quoted (isQuote_nameQuote dialect) hwords

theorem literal (hwords : ∀ word ∈ words, StartsOutside isQuote word) {text other : String} :
    AgreeOnlyIf words (printed dialect [.literal text]) (printed dialect [.literal other])
      (text = other) := by
  simpa [printed, Piece.text] using quoted (by decide : isQuote literalQuote = true) hwords

theorem numerals (hwords : ∀ word ∈ words, StartsOutside isNumeral word)
    (hword : Decimal.AreNumerals word.toList) (hother : Decimal.AreNumerals other.toList) :
    AgreeOnlyIf words (printed dialect [.words word]) (printed dialect [.words other])
      (word = other) := by
  have hspan : AgreeOnlyIf words word.toList other.toList (word.toList = other.toList) :=
    span (fun c hc => decide_eq_true (hword c hc)) (fun c hc => decide_eq_true (hother c hc)) hwords
  simpa [printed, Piece.text] using hspan.imp fun heq => String.toList_injective heq

theorem append_pieces {middle : List String} {firstEnd secondEnd : List Piece} {more : Prop}
    (hstart : AgreeOnlyIf middle (printed dialect first) (printed dialect second) same)
    (hfirst : ∀ rest, StartsWith words rest →
      StartsWith middle (printed dialect firstEnd ++ rest))
    (hsecond : ∀ rest, StartsWith words rest →
      StartsWith middle (printed dialect secondEnd ++ rest))
    (hend : AgreeOnlyIf words (printed dialect firstEnd) (printed dialect secondEnd) more) :
    AgreeOnlyIf words (printed dialect (first ++ firstEnd)) (printed dialect (second ++ secondEnd))
      (same ∧ more) := by
  rw [printed_append, printed_append]
  exact hstart.append hfirst hsecond fun _ => hend

/-- Words that are the same in both texts end what stands before them. -/
theorem closed (h : AgreeOnlyIf [closing] (printed dialect first) (printed dialect second) same) :
    AgreeOnlyIf words (printed dialect (first ++ [.words closing]))
      (printed dialect (second ++ [.words closing])) same := by
  have hclosing : ∀ rest, StartsWith [closing] (printed dialect [.words closing] ++ rest) :=
    startsWith_words List.mem_cons_self []
  exact (h.append_pieces (fun rest _ => hclosing rest) (fun rest _ => hclosing rest)
    (refl trivial)).imp And.left

end AgreeOnlyIf

/-! ## Lists -/

/-- The items of a list behind the first one, with the words in front of each. -/
def following (dialect : Dialect) (between : String) (print : α → List Piece) (items : List α) :
    List Char :=
  items.flatMap fun item => printed dialect (.words between :: print item)

theorem printed_separated_cons (item : α) (rest : List α) :
    printed dialect (separated between ((item :: rest).map print)) =
      printed dialect (print item) ++ following dialect between print rest := by
  induction rest generalizing item with
  | nil => simp [separated, following]
  | cons next rest ih =>
      rw [List.map_cons, List.map_cons, separated, ← List.map_cons, printed_append, printed_cons,
        ih, following, following, List.flatMap_cons, printed_cons, List.append_assoc]
      exact List.cons_ne_nil _ _

theorem startsWith_following {rest : List Char} (hrest : StartsWith words rest) (items : List α) :
    StartsWith (between :: words) (following dialect between print items ++ rest) := by
  cases items with
  | nil => exact hrest.mono (List.subset_cons_self _ _)
  | cons item items =>
      rw [following, List.flatMap_cons, List.append_assoc]
      exact startsWith_words List.mem_cons_self _ _

theorem AgreeOnlyIf.cons {item other : α} {items others : List α}
    (hitem : AgreeOnlyIf (between :: words) (printed dialect first) (printed dialect second)
      (shown item = shown other))
    (hrest : AgreeOnlyIf words (following dialect between print items)
      (following dialect between print others) (items.map shown = others.map shown)) :
    AgreeOnlyIf words (printed dialect first ++ following dialect between print items)
      (printed dialect second ++ following dialect between print others)
      ((item :: items).map shown = (other :: others).map shown) := by
  refine (hitem.append (fun _ hbehind => startsWith_following hbehind items)
    (fun _ hbehind => startsWith_following hbehind others) fun _ => hrest).imp ?_
  rintro ⟨hsame, hsames⟩
  rw [List.map_cons, List.map_cons, hsame, hsames]

theorem AgreeOnlyIf.tail (hapart : ∀ word ∈ words, Apart between word) {items others : List α}
    (h : ∀ item ∈ items, ∀ other ∈ others, AgreeOnlyIf (between :: words)
      (printed dialect (print item)) (printed dialect (print other)) (shown item = shown other)) :
    AgreeOnlyIf words (following dialect between print items)
      (following dialect between print others) (items.map shown = others.map shown) := by
  have habsent : ∀ item rest, AgreeOnlyIf words (following dialect between print [])
      (following dialect between print (item :: rest)) False := by
    intro item rest
    apply nil_left
    intro behind
    rw [following, List.flatMap_cons, List.append_assoc]
    exact not_startsWith_words hapart _ _
  induction items generalizing others with
  | nil =>
      cases others with
      | nil => exact refl rfl
      | cons other others => exact (habsent other others).imp False.elim
  | cons item items ih =>
      cases others with
      | nil => exact (habsent item items).symm.imp False.elim
      | cons other others =>
          have hitem := h item List.mem_cons_self other List.mem_cons_self
          have hrest := ih fun item hitem other hother =>
            h item (List.mem_cons_of_mem _ hitem) other (List.mem_cons_of_mem _ hother)
          exact hitem.words_cons.cons hrest

/-- Parts with the same words between neighbours, where none starts like what stands behind. -/
theorem AgreeOnlyIf.list (hapart : ∀ word ∈ words, Apart between word) {items others : List α}
    (hstart : ∀ item rest, ¬StartsWith words (printed dialect (print item) ++ rest))
    (h : ∀ item ∈ items, ∀ other ∈ others, AgreeOnlyIf (between :: words)
      (printed dialect (print item)) (printed dialect (print other)) (shown item = shown other)) :
    AgreeOnlyIf words (printed dialect (separated between (items.map print)))
      (printed dialect (separated between (others.map print)))
      (items.map shown = others.map shown) := by
  have habsent : ∀ item rest, AgreeOnlyIf words
      (printed dialect (separated between (([] : List α).map print)))
      (printed dialect (separated between ((item :: rest).map print))) False := by
    intro item rest
    apply nil_left
    intro behind
    rw [printed_separated_cons, List.append_assoc]
    exact hstart item _
  cases items with
  | nil =>
      cases others with
      | nil => exact refl rfl
      | cons other others => exact (habsent other others).imp False.elim
  | cons item items =>
      cases others with
      | nil => exact (habsent item items).symm.imp False.elim
      | cons other others =>
          have hitem := h item List.mem_cons_self other List.mem_cons_self
          rw [printed_separated_cons, printed_separated_cons]
          exact hitem.cons (.tail hapart fun item hitem other hother =>
            h item (List.mem_cons_of_mem _ hitem) other (List.mem_cons_of_mem _ hother))

/-- A list whose items are known by their texts. -/
theorem AgreeOnlyIf.list_eq (hapart : ∀ word ∈ words, Apart between word) {items others : List α}
    (hstart : ∀ item rest, ¬StartsWith words (printed dialect (print item) ++ rest))
    (h : ∀ item ∈ items, ∀ other ∈ others, AgreeOnlyIf (between :: words)
      (printed dialect (print item)) (printed dialect (print other)) (item = other)) :
    AgreeOnlyIf words (printed dialect (separated between (items.map print)))
      (printed dialect (separated between (others.map print))) (items = others) := by
  have hlist : AgreeOnlyIf words (printed dialect (separated between (items.map print)))
      (printed dialect (separated between (others.map print))) (items.map id = others.map id) :=
    list hapart hstart h
  rwa [List.map_id, List.map_id] at hlist

theorem AgreeOnlyIf.literals (hapart : ∀ word ∈ words, Apart ", " word)
    (hwords : ∀ word ∈ words, StartsOutside isQuote word) {texts others : List String} :
    AgreeOnlyIf words (printed dialect (listed (texts.map fun text => [.literal text])))
      (printed dialect (listed (others.map fun text => [.literal text]))) (texts = others) := by
  refine list_eq hapart (fun text rest => ?_) fun _ _ _ _ => ?_
  · rw [printed_cons, List.append_assoc]
    exact not_startsWith_quoted hwords (by decide) text _
  · exact literal (List.forall_mem_cons.mpr ⟨by decide, hwords⟩)

/-! ## Optional clauses -/

/-- A clause that starts with words, if there is one. -/
def clause (word : String) (print : α → List Piece) : Option α → List Piece
  | none => []
  | some content => .words word :: print content

/-- An optional clause is a list of at most one item. -/
theorem printed_clause (content? : Option α) :
    printed dialect (clause word print content?) =
      following dialect word print content?.toList := by
  cases content? <;> simp [clause, following, printed]

theorem startsWith_clause {rest : List Char} (hrest : StartsWith words rest) (content? : Option α) :
    StartsWith (word :: words) (printed dialect (clause word print content?) ++ rest) := by
  rw [printed_clause]
  exact startsWith_following hrest content?.toList

theorem startsWith_clause_append {pieces : List Piece} {rest : List Char}
    (hrest : StartsWith words (printed dialect pieces ++ rest)) (content? : Option α) :
    StartsWith (word :: words)
      (printed dialect (clause word print content? ++ pieces) ++ rest) := by
  rw [printed_append, List.append_assoc]
  exact startsWith_clause hrest content?

theorem AgreeOnlyIf.optional (hapart : ∀ other ∈ words, Apart word other)
    {content? other? : Option α}
    (h : ∀ content other, AgreeOnlyIf (word :: words) (printed dialect (print content))
      (printed dialect (print other)) (content = other)) :
    AgreeOnlyIf words (printed dialect (clause word print content?))
      (printed dialect (clause word print other?)) (content? = other?) := by
  have htail : AgreeOnlyIf words (following dialect word print content?.toList)
      (following dialect word print other?.toList)
      (content?.toList.map id = other?.toList.map id) :=
    tail hapart fun content _ other _ => h content other
  rw [printed_clause, printed_clause]
  refine htail.imp fun heq => ?_
  cases content? <;> cases other? <;> simp at heq ⊢
  exact heq

end Pieces

end SchemaTables
