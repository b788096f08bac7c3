import Autopilot.Proofs.Lexer.Leading
import Autopilot.Script.Text

/-!
# How a script is spelled

Where every name is a word other than a keyword and every number is a numeral, the text
of a script is cut into the lexemes that it was put together from.
-/

namespace Autopilot

/-- A word that is no keyword. -/
def IsName (name : String) : Prop :=
  isWord name = true ∧ keywordKind? name = none

def Operand.IsSpelled : Operand → Prop
  | name word => IsName word
  | number raw => IsNumeral raw.toList

def Condition.IsSpelled : Condition → Prop
  | comparison left _ right => IsName left ∧ right.IsSpelled
  | query name => IsName name
  | logical left _ right => left.IsSpelled ∧ right.IsSpelled

def Command.IsSpelled (command : Command) : Prop :=
  IsName command.name ∧ ∀ argument ∈ command.arguments, argument.IsSpelled

def Trigger.IsSpelled : Trigger → Prop
  | .condition tested => tested.IsSpelled
  | _ => True

def Statement.IsSpelled (statement : Statement) : Prop :=
  statement.trigger.IsSpelled ∧ statement.command.IsSpelled

/-- No joined condition stands on the right of another one. -/
def Condition.LeftNested : Condition → Prop
  | logical left _ right =>
    left.LeftNested ∧ right.LeftNested ∧ right.isLogical = false
  | _ => True

def Trigger.LeftNested : Trigger → Prop
  | .condition tested => tested.LeftNested
  | _ => True

def Script.LeftNested (script : Script) : Prop :=
  ∀ statement ∈ script.statements, statement.trigger.LeftNested

/-! ## Lexemes -/

def Comparator.kind : Comparator → TokenKind
  | less => .lessThan
  | lessEqual => .lessOrEqual
  | greater => .greaterThan
  | greaterEqual => .greaterOrEqual
  | equal => .equalTo
  | notEqual => .notEqualTo

namespace Lexeme

/-- A name or a keyword. -/
def word (text : String) : Lexeme :=
  token (wordKind text.toList) text.toList

abbrev space : Lexeme := blank ' '

abbrev sign (comparator : Comparator) : Lexeme :=
  token comparator.kind comparator.sign.toList

abbrev comma : Lexeme := token .comma [',']

abbrev opening : Lexeme := token .leftParen ['(']

abbrev closing : Lexeme := token .rightParen [')']

abbrev lineEnd : Lexeme := token .newline ['\n']

end Lexeme

open Lexeme

def Operand.lexeme : Operand → Lexeme
  | name text => word text
  | number raw => token .number raw.toList

/-- Operands with a comma in front of each. -/
def furtherLexemes (operands : List Operand) : List Lexeme :=
  operands.flatMap fun operand => [comma, space, operand.lexeme]

def Command.lexemes (command : Command) : List Lexeme :=
  word command.name ::
    match command.arguments with
    | [] => []
    | first :: others =>
      opening :: first.lexeme :: (furtherLexemes others ++ [closing])

def Condition.lexemes : Condition → List Lexeme
  | comparison left comparator right =>
    [word left, space, sign comparator, space, right.lexeme]
  | query name => [word name]
  | logical left connective right =>
    left.lexemes ++ space :: word connective.word :: space ::
      if right.isLogical then opening :: (right.lexemes ++ [closing])
      else right.lexemes

def Statement.lexemes (statement : Statement) : List Lexeme :=
  match statement.trigger with
  | .condition condition =>
    word "IF" :: space ::
      (condition.lexemes ++ space :: word "THEN" :: space :: statement.command.lexemes)
  | .fallback => word "ELSE" :: space :: statement.command.lexemes
  | .always => statement.command.lexemes

def Script.lexemes (script : Script) : List Lexeme :=
  script.statements.flatMap fun statement => statement.lexemes ++ [lineEnd]

/-! ## The lexemes make up the text -/

namespace Lexeme

@[simp]
theorem chars_token (kind : TokenKind) (text : List Char) :
    (token kind text).chars = text := rfl

@[simp]
theorem chars_blank (c : Char) : (blank c).chars = [c] := rfl

@[simp]
theorem chars_word (text : String) : (word text).chars = text.toList := rfl

end Lexeme

@[simp]
theorem Operand.chars_lexeme (operand : Operand) :
    operand.lexeme.chars = operand.text.toList := by
  cases operand <;> rfl

theorem chars_argumentsText (first : Operand) (others : List Operand) :
    first.lexeme.chars ++ (furtherLexemes others).flatMap chars =
      (Command.argumentsText (first :: others)).toList := by
  rw [Command.argumentsText]
  induction others generalizing first with
  | nil => simp [furtherLexemes]
  | cons second others ih =>
      rw [List.map_cons, List.map_cons, String.intercalate_cons_cons, ← List.map_cons,
        String.toList_append, String.toList_append, ← ih]
      simp [furtherLexemes]

theorem Command.chars_lexemes (command : Command) :
    command.lexemes.flatMap chars = command.text.toList := by
  obtain ⟨name, arguments⟩ := command
  cases arguments with
  | nil => simp [lexemes, text]
  | cons first others =>
      simp only [lexemes, text, String.toList_append, ← chars_argumentsText,
        List.flatMap_cons, List.flatMap_append, List.flatMap_nil]
      simp

theorem Condition.chars_lexemes (condition : Condition) :
    condition.lexemes.flatMap chars = condition.text.toList := by
  induction condition with
  | comparison left comparator right => simp [lexemes, text]
  | query name => simp [lexemes, text]
  | logical left connective right ihl ihr =>
      simp only [lexemes, text, String.toList_append, List.flatMap_append,
        List.flatMap_cons, ihl]
      by_cases h : right.isLogical = true
      · simp [h, ihr]
      · simp [h, ihr]

theorem Statement.chars_lexemes (statement : Statement) :
    statement.lexemes.flatMap chars = statement.text.toList := by
  obtain ⟨trigger, command, line⟩ := statement
  cases trigger with
  | condition condition =>
      simp [lexemes, text, condition.chars_lexemes, command.chars_lexemes]
  | fallback => simp [lexemes, text, command.chars_lexemes]
  | always => exact command.chars_lexemes

theorem Script.chars_lexemes (script : Script) :
    script.lexemes.flatMap chars = script.text.toList := by
  rw [lexemes, text, String.toList_join, List.flatMap_map, List.flatMap_assoc]
  congr
  funext statement
  simp [statement.chars_lexemes]

/-! ## No lexeme is a stray character -/

namespace Lexeme

/-- The character that belongs to no token. -/
def stray? : Lexeme → Option Char
  | stray c => some c
  | _ => none

/-- The characters that belong to no token. -/
def strays (ls : List Lexeme) : List Char :=
  ls.filterMap stray?

@[simp]
theorem strays_nil : strays [] = [] := rfl

@[simp]
theorem strays_cons (lexeme : Lexeme) (ls : List Lexeme) :
    strays (lexeme :: ls) = lexeme.stray?.toList ++ strays ls := by
  cases h : lexeme.stray? with
  | none => simp [strays, h]
  | some c => simp [strays, h]

@[simp]
theorem strays_append (front back : List Lexeme) :
    strays (front ++ back) = strays front ++ strays back :=
  List.filterMap_append

@[simp]
theorem stray?_token (kind : TokenKind) (text : List Char) :
    (token kind text).stray? = none := rfl

@[simp]
theorem stray?_blank (c : Char) : (blank c).stray? = none := rfl

@[simp]
theorem stray?_word (text : String) : (word text).stray? = none := rfl

end Lexeme

@[simp]
theorem Operand.stray?_lexeme (operand : Operand) : operand.lexeme.stray? = none := by
  cases operand <;> rfl

theorem strays_furtherLexemes (operands : List Operand) :
    strays (furtherLexemes operands) = [] := by
  induction operands with
  | nil => rfl
  | cons operand operands ih =>
      rw [furtherLexemes] at ih ⊢
      simp [ih]

theorem Command.strays_lexemes (command : Command) : strays command.lexemes = [] := by
  obtain ⟨name, arguments⟩ := command
  cases arguments with
  | nil => simp [lexemes]
  | cons first others => simp [lexemes, strays_furtherLexemes]

theorem Condition.strays_lexemes (condition : Condition) :
    strays condition.lexemes = [] := by
  induction condition with
  | comparison left comparator right => simp [lexemes]
  | query name => simp [lexemes]
  | logical left connective right ihl ihr =>
      by_cases hright : right.isLogical = true
      · simp [lexemes, hright, ihl, ihr]
      · simp [lexemes, hright, ihl, ihr]

theorem Statement.strays_lexemes (statement : Statement) :
    strays statement.lexemes = [] := by
  obtain ⟨trigger, command, line⟩ := statement
  cases trigger with
  | condition condition =>
      simp [lexemes, condition.strays_lexemes, command.strays_lexemes]
  | fallback => simp [lexemes, command.strays_lexemes]
  | always => exact command.strays_lexemes

theorem Script.strays_lexemes (script : Script) : strays script.lexemes = [] := by
  obtain ⟨statements⟩ := script
  induction statements with
  | nil => rfl
  | cons statement statements ih =>
      rw [lexemes] at ih ⊢
      simp [statement.strays_lexemes, ih]

/-- Without stray characters there are no diagnostics. -/
theorem diagnosticsOf_of_strays {p : Position} {ls : List Lexeme}
    (h : strays ls = []) : diagnosticsOf (placedFrom p ls) = [] := by
  induction ls generalizing p with
  | nil => rfl
  | cons lexeme ls ih =>
      cases lexeme with
      | stray c => cases h
      | _ => exact ih h

/-! ## The lexemes are cut off one by one -/

section Leading

variable {rest : List Char}

theorem startsApart_space (rest : List Char) : StartsApart (' ' :: rest) :=
  startsApart_cons rest (by decide)

theorem startsApart_closing (rest : List Char) : StartsApart (')' :: rest) :=
  startsApart_cons rest (by decide)

theorem Comparator.leads_sign (comparator : Comparator) (rest : List Char) :
    (Lexeme.sign comparator).Leads (' ' :: rest) := by
  cases comparator <;> exact ⟨_, _, rfl, rfl⟩

theorem Operand.leads_lexeme {operand : Operand} (h : operand.IsSpelled)
    (hrest : StartsApart rest) : operand.lexeme.Leads rest := by
  cases operand with
  | name text => exact leads_word h.1 hrest
  | number raw => exact leads_number h hrest

theorem allLead_furtherLexemes {operands : List Operand}
    (h : ∀ operand ∈ operands, operand.IsSpelled) (rest : List Char) :
    AllLead (')' :: rest) (furtherLexemes operands) ∧
      StartsApart ((furtherLexemes operands).flatMap chars ++ ')' :: rest) := by
  induction operands with
  | nil => exact ⟨trivial, startsApart_closing rest⟩
  | cons operand operands ih =>
      obtain ⟨hoperand, hoperands⟩ := List.forall_mem_cons.mp h
      obtain ⟨hothers, hapart⟩ := ih hoperands
      have hlead := Operand.leads_lexeme hoperand hapart
      constructor
      · exact ⟨leads_comma _, leads_blank _, hlead, hothers⟩
      · exact startsApart_cons _ (by decide)

theorem Command.allLead_lexemes {command : Command} (h : command.IsSpelled)
    (hrest : StartsApart rest) : AllLead rest command.lexemes := by
  obtain ⟨name, arguments⟩ := command
  obtain ⟨hname, harguments⟩ := h
  cases arguments with
  | nil => exact ⟨leads_word hname.1 hrest, trivial⟩
  | cons first others =>
      obtain ⟨hspelled, hfurther⟩ := List.forall_mem_cons.mp harguments
      obtain ⟨hothers, hapart⟩ := allLead_furtherLexemes hfurther rest
      have hfirst := Operand.leads_lexeme hspelled hapart
      have hinside : AllLead rest (furtherLexemes others ++ [closing]) := by
        rw [allLead_append]
        exact ⟨hothers, leads_rightParen rest, trivial⟩
      refine ⟨leads_word hname.1 (startsApart_cons _ (by decide)), leads_leftParen _, ?_,
        hinside⟩
      simpa using hfirst

theorem Condition.allLead_lexemes {condition : Condition} (h : condition.IsSpelled)
    (hrest : StartsApart rest) : AllLead rest condition.lexemes := by
  induction condition generalizing rest with
  | comparison left comparator right =>
      exact ⟨leads_word h.1.1 (startsApart_space _), leads_blank _,
        comparator.leads_sign _, leads_blank _, Operand.leads_lexeme h.2 hrest, trivial⟩
  | query name => exact ⟨leads_word h.1 hrest, trivial⟩
  | logical left connective right ihl ihr =>
      have hword : isWord connective.word = true := by
        cases connective <;> decide
      rw [lexemes, allLead_append]
      refine ⟨ihl h.1 (startsApart_space _), leads_blank _,
        leads_word hword (startsApart_space _), leads_blank _, ?_⟩
      by_cases hright : right.isLogical = true
      · rw [if_pos hright]
        refine ⟨leads_leftParen _, ?_⟩
        rw [allLead_append]
        exact ⟨ihr h.2 (startsApart_closing rest), leads_rightParen rest, trivial⟩
      · rw [if_neg hright]
        exact ihr h.2 hrest

theorem Statement.allLead_lexemes {statement : Statement} (h : statement.IsSpelled)
    (hrest : StartsApart rest) : AllLead rest statement.lexemes := by
  obtain ⟨trigger, command, line⟩ := statement
  obtain ⟨htrigger, hcommand⟩ := h
  have hbehind := Command.allLead_lexemes hcommand hrest
  cases trigger with
  | condition condition =>
      have hthen : AllLead rest (space :: word "THEN" :: space :: command.lexemes) :=
        ⟨leads_blank _, leads_word (by decide) (startsApart_space _), leads_blank _,
          hbehind⟩
      refine ⟨leads_word (by decide) (startsApart_space _), leads_blank _, ?_⟩
      rw [allLead_append]
      exact ⟨Condition.allLead_lexemes htrigger (startsApart_space _), hthen⟩
  | fallback =>
      exact ⟨leads_word (by decide) (startsApart_space _), leads_blank _, hbehind⟩
  | always => exact hbehind

/-- The text of a script is cut into the lexemes that it was put together from. -/
theorem Script.lexemes_text {script : Script}
    (h : ∀ statement ∈ script.statements, statement.IsSpelled) :
    Autopilot.lexemes script.text.toList = script.lexemes := by
  rw [← script.chars_lexemes]
  apply lexemes_of_allLead
  obtain ⟨statements⟩ := script
  induction statements with
  | nil => trivial
  | cons statement statements ih =>
      obtain ⟨hspelled, hmore⟩ := List.forall_mem_cons.mp h
      have hothers := ih hmore
      have hfirst := Statement.allLead_lexemes hspelled
        (startsApart_cons ((lexemes ⟨statements⟩).flatMap chars ++ [])
          (by decide : isWordPart '\n' = false ∧ '\n' ≠ '.'))
      have hline : AllLead ((lexemes ⟨statements⟩).flatMap chars ++ [])
          (statement.lexemes ++ [lineEnd]) := by
        rw [allLead_append]
        exact ⟨hfirst, leads_newline _, trivial⟩
      exact allLead_append.mpr ⟨hline, hothers⟩

end Leading

end Autopilot
