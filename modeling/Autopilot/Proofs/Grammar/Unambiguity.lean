import Autopilot.Proofs.Grammar.Completeness

/-!
# The grammar is unambiguous

A list of tokens has at most one derivation.  For a part of a script this is said of
lists that start with its tokens: two derivations at the start of one list are the
same, unless a token behind them carries one of them on.
-/

namespace Autopilot

/-- Whether the kind of the first token, if there is one, has a property. -/
def HeadIs (p : TokenKind → Prop) (tokens : List Token) : Prop :=
  ∀ token ∈ tokens.head?, p token.kind

@[simp]
theorem headIs_cons {p : TokenKind → Prop} {token : Token} {tokens : List Token} :
    HeadIs p (token :: tokens) ↔ p token.kind := by
  simp [HeadIs]

theorem ComparatorSign.eq_of_token_eq {sign sign' : ComparatorSign}
    (h : sign.token = sign'.token) : sign = sign' := by
  obtain ⟨token, comparator, hkind⟩ := sign
  obtain ⟨token', comparator', hkind'⟩ := sign'
  obtain rfl : token = token' := h
  obtain rfl := Option.some.inj (hkind.symm.trans hkind')
  rfl

theorem ConnectiveWord.eq_of_token_eq {word word' : ConnectiveWord}
    (h : word.token = word'.token) : word = word' := by
  obtain ⟨token, connective, hkind⟩ := word
  obtain ⟨token', connective', hkind'⟩ := word'
  obtain rfl : token = token' := h
  obtain rfl := Option.some.inj (hkind.symm.trans hkind')
  rfl

/-- A token that stands at two leaves makes them agree on its kind. -/
theorem Terminal.kind_unique {kind kind' : TokenKind} {leaf : Terminal kind}
    {leaf' : Terminal kind'} (h : leaf.token = leaf'.token) : kind = kind' := by
  rw [← leaf.kind_eq, h, leaf'.kind_eq]

theorem OperandTree.eq_of_token_eq {operand operand' : OperandTree}
    (h : operand.token = operand'.token) : operand = operand' := by
  cases operand with
  | name word =>
      cases operand' with
      | name word' => rw [Terminal.ext h]
      | number digits' => exact absurd (Terminal.kind_unique h) (by decide)
  | number digits =>
      cases operand' with
      | name word' => exact absurd (Terminal.kind_unique h) (by decide)
      | number digits' => rw [Terminal.ext h]

/-! ## Conditions -/

/-- No relation stands in front. -/
abbrev NoComparator (tokens : List Token) : Prop :=
  HeadIs (fun kind => Comparator.ofKind? kind = none) tokens

/-- No connective stands in front. -/
abbrev NoConnective (tokens : List Token) : Prop :=
  HeadIs (fun kind => Connective.ofKind? kind = none) tokens

theorem ComparatorSign.not_noComparator (sign : ComparatorSign) (rest : List Token) :
    ¬ NoComparator (sign.token :: rest) := by
  intro h
  have hnone := headIs_cons.mp h
  rw [sign.kind_eq] at hnone
  cases hnone

theorem ConnectiveWord.not_noConnective (word : ConnectiveWord) (rest : List Token) :
    ¬ NoConnective (word.token :: rest) := by
  intro h
  have hnone := headIs_cons.mp h
  rw [word.kind_eq] at hnone
  cases hnone

theorem TermTree.tokens_append_inj {term term' : TermTree} {rest rest' : List Token}
    (h : term.tokens ++ rest = term'.tokens ++ rest')
    (hrest : NoComparator rest) (hrest' : NoComparator rest') :
    term = term' ∧ rest = rest' := by
  cases term with
  | query name =>
      cases term' with
      | query name' =>
          obtain ⟨hname, hrest⟩ := List.cons.inj h
          exact ⟨by rw [Terminal.ext hname], hrest⟩
      | comparison left' sign' right' =>
          obtain ⟨-, htail⟩ := List.cons.inj h
          obtain rfl : rest = _ := htail
          exact absurd hrest (sign'.not_noComparator _)
  | comparison left sign right =>
      cases term' with
      | query name' =>
          obtain ⟨-, htail⟩ := List.cons.inj h
          obtain rfl : _ = rest' := htail
          exact absurd hrest' (sign.not_noComparator _)
      | comparison left' sign' right' =>
          obtain ⟨hleft, htail⟩ := List.cons.inj h
          obtain ⟨hsign, htail⟩ := List.cons.inj htail
          obtain ⟨hright, hrest⟩ := List.cons.inj htail
          rw [Terminal.ext hleft, ComparatorSign.eq_of_token_eq hsign,
            OperandTree.eq_of_token_eq hright]
          exact ⟨rfl, hrest⟩

theorem noComparator_joinedTokens_append (others : List (ConnectiveWord × TermTree))
    {rest : List Token} (hrest : NoComparator rest) :
    NoComparator (joinedTokens others ++ rest) := by
  cases others with
  | nil => exact hrest
  | cons other others => exact headIs_cons.mpr other.1.ofKind?_comparator

theorem joinedTokens_cons (word : ConnectiveWord) (term : TermTree)
    (others : List (ConnectiveWord × TermTree)) :
    joinedTokens ((word, term) :: others) =
      word.token :: (term.tokens ++ joinedTokens others) := rfl

theorem joinedTokens_append_inj {others others' : List (ConnectiveWord × TermTree)}
    {rest rest' : List Token}
    (h : joinedTokens others ++ rest = joinedTokens others' ++ rest')
    (hcomparator : NoComparator rest) (hcomparator' : NoComparator rest')
    (hconnective : NoConnective rest) (hconnective' : NoConnective rest') :
    others = others' ∧ rest = rest' := by
  induction others generalizing others' with
  | nil =>
      cases others' with
      | nil => exact ⟨rfl, h⟩
      | cons other' others' =>
          obtain rfl : rest = other'.1.token :: _ := h
          exact absurd hconnective (other'.1.not_noConnective _)
  | cons other others ih =>
      cases others' with
      | nil =>
          obtain rfl : other.1.token :: _ = rest' := h
          exact absurd hconnective' (other.1.not_noConnective _)
      | cons other' others' =>
          obtain ⟨word, term⟩ := other
          obtain ⟨word', term'⟩ := other'
          simp only [joinedTokens_cons, List.cons_append, List.append_assoc] at h
          obtain ⟨hword, htail⟩ := List.cons.inj h
          obtain ⟨hterm, hothers⟩ := TermTree.tokens_append_inj htail
            (noComparator_joinedTokens_append others hcomparator)
            (noComparator_joinedTokens_append others' hcomparator')
          obtain ⟨hsame, hrest⟩ := ih hothers
          obtain rfl := ConnectiveWord.eq_of_token_eq hword
          subst hterm hsame
          exact ⟨rfl, hrest⟩

theorem ConditionTree.tokens_append_inj {condition condition' : ConditionTree}
    {rest rest' : List Token}
    (h : condition.tokens ++ rest = condition'.tokens ++ rest')
    (hcomparator : NoComparator rest) (hcomparator' : NoComparator rest')
    (hconnective : NoConnective rest) (hconnective' : NoConnective rest') :
    condition = condition' ∧ rest = rest' := by
  obtain ⟨first, others⟩ := condition
  obtain ⟨first', others'⟩ := condition'
  simp only [tokens, List.append_assoc] at h
  obtain ⟨hfirst, hothers⟩ := TermTree.tokens_append_inj h
    (noComparator_joinedTokens_append others hcomparator)
    (noComparator_joinedTokens_append others' hcomparator')
  obtain ⟨hsame, hrest⟩ := joinedTokens_append_inj hothers hcomparator hcomparator'
    hconnective hconnective'
  rw [hfirst, hsame]
  exact ⟨rfl, hrest⟩

/-! ## Commands -/

/-- The tokens of the operands behind the first one. -/
abbrev commaTokens (others : List (Terminal .comma × OperandTree)) : List Token :=
  others.flatMap fun (comma, operand) => [comma.token, operand.token]

theorem commaTokens_append_inj {others others' : List (Terminal .comma × OperandTree)}
    {rest rest' : List Token}
    (h : commaTokens others ++ rest = commaTokens others' ++ rest')
    (hrest : HeadIs (· ≠ .comma) rest) (hrest' : HeadIs (· ≠ .comma) rest') :
    others = others' ∧ rest = rest' := by
  induction others generalizing others' with
  | nil =>
      cases others' with
      | nil => exact ⟨rfl, h⟩
      | cons other' others' =>
          obtain rfl : rest = other'.1.token :: _ := h
          exact absurd other'.1.kind_eq (headIs_cons.mp hrest)
  | cons other others ih =>
      cases others' with
      | nil =>
          obtain rfl : other.1.token :: _ = rest' := h
          exact absurd other.1.kind_eq (headIs_cons.mp hrest')
      | cons other' others' =>
          obtain ⟨comma, operand⟩ := other
          obtain ⟨comma', operand'⟩ := other'
          obtain ⟨hcomma, htail⟩ := List.cons.inj h
          obtain ⟨hoperand, hothers⟩ := List.cons.inj htail
          obtain ⟨hsame, hrest⟩ := ih hothers
          rw [Terminal.ext hcomma, OperandTree.eq_of_token_eq hoperand, hsame]
          exact ⟨rfl, hrest⟩

theorem OperandsTree.tokens_append_inj {operands operands' : OperandsTree}
    {rest rest' : List Token}
    (h : operands.tokens ++ rest = operands'.tokens ++ rest')
    (hrest : HeadIs (· ≠ .comma) rest) (hrest' : HeadIs (· ≠ .comma) rest') :
    operands = operands' ∧ rest = rest' := by
  obtain ⟨first, others⟩ := operands
  obtain ⟨first', others'⟩ := operands'
  obtain ⟨hfirst, hothers⟩ := List.cons.inj h
  obtain ⟨hsame, hrest⟩ := commaTokens_append_inj hothers hrest hrest'
  obtain rfl : first = first' := OperandTree.eq_of_token_eq hfirst
  obtain rfl : others = others' := hsame
  exact ⟨rfl, hrest⟩

/-- An operand is not the parenthesis that closes a list of operands. -/
theorem OperandTree.token_ne_closing (operand : OperandTree)
    (closing : Terminal .rightParen) : operand.token ≠ closing.token := by
  intro h
  have hkind := operand.kind_token
  rw [h, closing.kind_eq] at hkind
  simp at hkind

theorem ArgumentsTree.tokens_append_inj {arguments arguments' : ArgumentsTree}
    {rest rest' : List Token}
    (h : arguments.tokens ++ rest = arguments'.tokens ++ rest') :
    arguments = arguments' ∧ rest = rest' := by
  obtain ⟨opening, operands, closing⟩ := arguments
  obtain ⟨opening', operands', closing'⟩ := arguments'
  obtain ⟨hopening, htail⟩ := List.cons.inj h
  obtain rfl : opening = opening' := Terminal.ext hopening
  simp only [List.append_eq] at htail
  simp only [List.append_assoc, List.singleton_append] at htail
  have hcomma : HeadIs (· ≠ .comma) (closing.token :: rest) := by
    rw [headIs_cons, closing.kind_eq]
    decide
  have hcomma' : HeadIs (· ≠ .comma) (closing'.token :: rest') := by
    rw [headIs_cons, closing'.kind_eq]
    decide
  cases operands with
  | none =>
      cases operands' with
      | none =>
          obtain ⟨hclosing, hrest⟩ := List.cons.inj htail
          rw [Terminal.ext hclosing]
          exact ⟨rfl, hrest⟩
      | some operands' =>
          obtain ⟨hfirst, -⟩ := List.cons.inj htail
          exact absurd hfirst.symm (operands'.first.token_ne_closing closing)
  | some operands =>
      cases operands' with
      | none =>
          obtain ⟨hfirst, -⟩ := List.cons.inj htail
          exact absurd hfirst (operands.first.token_ne_closing closing')
      | some operands' =>
          obtain ⟨hoperands, hbehind⟩ :=
            OperandsTree.tokens_append_inj htail hcomma hcomma'
          obtain ⟨hclosing, hrest⟩ := List.cons.inj hbehind
          rw [hoperands, Terminal.ext hclosing]
          exact ⟨rfl, hrest⟩

theorem CommandTree.tokens_append_inj {command command' : CommandTree}
    {rest rest' : List Token}
    (h : command.tokens ++ rest = command'.tokens ++ rest')
    (hrest : HeadIs (· ≠ .leftParen) rest) (hrest' : HeadIs (· ≠ .leftParen) rest') :
    command = command' ∧ rest = rest' := by
  obtain ⟨name, arguments⟩ := command
  obtain ⟨name', arguments'⟩ := command'
  obtain ⟨hname, htail⟩ := List.cons.inj h
  obtain rfl : name = name' := Terminal.ext hname
  cases arguments with
  | none =>
      cases arguments' with
      | none => exact ⟨rfl, htail⟩
      | some arguments' =>
          obtain rfl : rest = arguments'.opening.token :: _ := htail
          exact absurd arguments'.opening.kind_eq (headIs_cons.mp hrest)
  | some arguments =>
      cases arguments' with
      | none =>
          obtain rfl : arguments.opening.token :: _ = rest' := htail
          exact absurd arguments.opening.kind_eq (headIs_cons.mp hrest')
      | some arguments' =>
          obtain ⟨hsame, hrest⟩ := ArgumentsTree.tokens_append_inj htail
          rw [hsame]
          exact ⟨rfl, hrest⟩

/-! ## Statements and scripts -/

theorem StatementTree.tokens_append_inj {statement statement' : StatementTree}
    {rest rest' : List Token}
    (h : statement.tokens ++ rest = statement'.tokens ++ rest')
    (hrest : HeadIs (· ≠ .leftParen) rest) (hrest' : HeadIs (· ≠ .leftParen) rest') :
    statement = statement' ∧ rest = rest' := by
  have hkind : statement.firstToken.kind = statement'.firstToken.kind := by
    obtain ⟨inner, hcons, -⟩ := statement.exists_tokens_eq_cons
    obtain ⟨inner', hcons', -⟩ := statement'.exists_tokens_eq_cons
    rw [hcons, hcons'] at h
    rw [(List.cons.inj h).1]
  cases statement with
  | conditional opening condition middle command =>
      cases statement' with
      | conditional opening' condition' middle' command' =>
          obtain ⟨hopening, htail⟩ := List.cons.inj h
          simp only [List.append_eq, List.append_assoc, List.cons_append] at htail
          have hthen : ∀ (leaf : Terminal .thenWord) (tokens : List Token),
              NoComparator (leaf.token :: tokens) ∧
                NoConnective (leaf.token :: tokens) := by
            intro leaf tokens
            rw [NoComparator, NoConnective, headIs_cons, headIs_cons, leaf.kind_eq]
            exact ⟨rfl, rfl⟩
          obtain ⟨hcondition, hbehind⟩ := ConditionTree.tokens_append_inj htail
            (hthen _ _).1 (hthen _ _).1 (hthen _ _).2 (hthen _ _).2
          obtain ⟨hmiddle, hcommand⟩ := List.cons.inj hbehind
          obtain ⟨hsame, hrest⟩ :=
            CommandTree.tokens_append_inj hcommand hrest hrest'
          rw [Terminal.ext hopening, hcondition, Terminal.ext hmiddle, hsame]
          exact ⟨rfl, hrest⟩
      | fallback opening' command' =>
          simp [firstToken, opening.kind_eq, opening'.kind_eq] at hkind
      | bare command' =>
          simp [firstToken, opening.kind_eq, command'.name.kind_eq] at hkind
  | fallback opening command =>
      cases statement' with
      | conditional opening' condition' middle' command' =>
          simp [firstToken, opening.kind_eq, opening'.kind_eq] at hkind
      | fallback opening' command' =>
          obtain ⟨hopening, htail⟩ := List.cons.inj h
          obtain ⟨hsame, hrest⟩ := CommandTree.tokens_append_inj htail hrest hrest'
          rw [Terminal.ext hopening, hsame]
          exact ⟨rfl, hrest⟩
      | bare command' =>
          simp [firstToken, opening.kind_eq, command'.name.kind_eq] at hkind
  | bare command =>
      cases statement' with
      | conditional opening' condition' middle' command' =>
          simp [firstToken, command.name.kind_eq, opening'.kind_eq] at hkind
      | fallback opening' command' =>
          simp [firstToken, command.name.kind_eq, opening'.kind_eq] at hkind
      | bare command' =>
          obtain ⟨hsame, hrest⟩ := CommandTree.tokens_append_inj h hrest hrest'
          rw [hsame]
          exact ⟨rfl, hrest⟩

theorem separators_append_inj {separators separators' : List (Terminal .newline)}
    {rest rest' : List Token}
    (h : separators.map (·.token) ++ rest = separators'.map (·.token) ++ rest')
    (hrest : HeadIs (· ≠ .newline) rest) (hrest' : HeadIs (· ≠ .newline) rest') :
    separators = separators' ∧ rest = rest' := by
  induction separators generalizing separators' with
  | nil =>
      cases separators' with
      | nil => exact ⟨rfl, h⟩
      | cons separator' separators' =>
          obtain rfl : rest = separator'.token :: _ := h
          exact absurd separator'.kind_eq (headIs_cons.mp hrest)
  | cons separator separators ih =>
      cases separators' with
      | nil =>
          obtain rfl : separator.token :: _ = rest' := h
          exact absurd separator.kind_eq (headIs_cons.mp hrest')
      | cons separator' separators' =>
          obtain ⟨hseparator, htail⟩ := List.cons.inj h
          obtain ⟨hsame, hrest⟩ := ih htail
          rw [Terminal.ext hseparator, hsame]
          exact ⟨rfl, hrest⟩

/-- What follows a statement and its separators does not carry them on. -/
theorem headIs_statementTokens_append
    (statements : List (StatementTree × List (Terminal .newline)))
    (ending : Terminal .eof) :
    HeadIs (fun kind => kind ≠ .newline ∧ kind ≠ .leftParen)
      (statementTokens statements ++ [ending.token]) := by
  cases statements with
  | nil =>
      have hkind := ending.kind_eq
      simp [statementTokens, hkind]
  | cons first statements =>
      obtain ⟨statement, separators⟩ := first
      obtain ⟨inner, hcons, -⟩ := statement.exists_tokens_eq_cons
      rw [statementTokens_cons, hcons]
      refine headIs_cons.mpr ?_
      rcases statement.kind_firstToken with hkind | hkind | hkind <;>
        rw [hkind] <;> decide

theorem HeadIs.mono {p q : TokenKind → Prop} {tokens : List Token}
    (h : HeadIs p tokens) (himp : ∀ kind, p kind → q kind) : HeadIs q tokens := by
  intro token htoken
  apply himp
  exact h token htoken

theorem headIs_separators_append {separators : List (Terminal .newline)}
    {rest : List Token} (hrest : HeadIs (· ≠ .leftParen) rest) :
    HeadIs (· ≠ .leftParen) (separators.map (·.token) ++ rest) := by
  cases separators with
  | nil => exact hrest
  | cons separator separators =>
      refine headIs_cons.mpr ?_
      rw [separator.kind_eq]
      decide

/-- The end token is not the first one of a statement. -/
theorem StatementTree.firstToken_ne_ending (statement : StatementTree)
    (ending : Terminal .eof) : statement.firstToken ≠ ending.token := by
  intro h
  have hkind := statement.kind_firstToken
  rw [h, ending.kind_eq] at hkind
  simp at hkind

theorem statementTokens_append_inj
    {statements statements' : List (StatementTree × List (Terminal .newline))}
    {ending ending' : Terminal .eof}
    (h : statementTokens statements ++ [ending.token] =
      statementTokens statements' ++ [ending'.token]) :
    statements = statements' ∧ ending = ending' := by
  induction statements generalizing statements' with
  | nil =>
      cases statements' with
      | nil => exact ⟨rfl, Terminal.ext (List.cons.inj h).1⟩
      | cons first' statements' =>
          obtain ⟨statement', separators'⟩ := first'
          obtain ⟨inner, hcons, -⟩ := statement'.exists_tokens_eq_cons
          rw [statementTokens_cons, hcons] at h
          exact absurd (List.cons.inj h).1.symm (statement'.firstToken_ne_ending ending)
  | cons first statements ih =>
      obtain ⟨statement, separators⟩ := first
      cases statements' with
      | nil =>
          obtain ⟨inner, hcons, -⟩ := statement.exists_tokens_eq_cons
          rw [statementTokens_cons, hcons] at h
          exact absurd (List.cons.inj h).1 (statement.firstToken_ne_ending ending')
      | cons first' statements' =>
          obtain ⟨statement', separators'⟩ := first'
          simp only [statementTokens_cons, List.append_assoc] at h
          have hbehind := headIs_statementTokens_append statements ending
          have hbehind' := headIs_statementTokens_append statements' ending'
          obtain ⟨hstatement, htail⟩ := StatementTree.tokens_append_inj h
            (headIs_separators_append (hbehind.mono fun _ => And.right))
            (headIs_separators_append (hbehind'.mono fun _ => And.right))
          obtain ⟨hseparators, hothers⟩ := separators_append_inj htail
            (hbehind.mono fun _ => And.left) (hbehind'.mono fun _ => And.left)
          obtain ⟨hsame, hending⟩ := ih hothers
          rw [hstatement, hseparators, hsame]
          exact ⟨rfl, hending⟩

/-- A list of tokens has at most one derivation. -/
theorem ScriptTree.tokens_injective {script script' : ScriptTree}
    (h : script.tokens = script'.tokens) : script = script' := by
  obtain ⟨separators, statements, ending⟩ := script
  obtain ⟨separators', statements', ending'⟩ := script'
  simp only [tokens, List.append_assoc] at h
  obtain ⟨hseparators, hbehind⟩ := separators_append_inj h
    ((headIs_statementTokens_append statements ending).mono fun _ => And.left)
    ((headIs_statementTokens_append statements' ending').mono fun _ => And.left)
  obtain ⟨hstatements, hending⟩ := statementTokens_append_inj hbehind
  rw [hseparators, hstatements, hending]

end Autopilot
