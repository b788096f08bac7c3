import Autopilot.Proofs.Command.History
import Autopilot.Proofs.Lexer.Longest
import Autopilot.Proofs.Reading.RoundTrip
import Autopilot.Proofs.Tick.Audited
import Autopilot.World.Drone

/-!
# Names that can be called

What may be registered is decided on the name as a whole, and what may be called is
decided by cutting a text into tokens.  The two agree: a handler can be registered under
a name exactly if the name is cut into one identifier and nothing else, and then a text
that is this name, in any letters of ASCII, is a script that calls the handler.
-/

namespace Autopilot

open Text

/-- A text is one identifier: it is cut into this token and the end token, and nothing is
remarked. -/
def IsIdentifier (text : String) : Prop :=
  ∃ word ending, tokenize text = ([word, ending], []) ∧ word.kind = .identifier ∧
    word.text = text ∧ ending.kind = .eof

/-- The script that calls one command without arguments. -/
def Script.calling (name : String) : Script :=
  ⟨[⟨.always, ⟨name, []⟩, 1⟩]⟩

/-! ## Names and identifiers -/

/-- A name is cut into one token. -/
theorem lexemes_of_isName {name : String} (h : IsName name) :
    lexemes name.toList = [.token .identifier name.toList] := by
  have hkind : wordKind name.toList = .identifier := by
    apply wordKind_of_keywordKind?
    rw [h.2]
    rfl
  have hlead : (Lexeme.token (wordKind name.toList) name.toList).Leads [] :=
    Lexeme.leads_word h.1 (by simp [StartsApart])
  rw [hkind] at hlead
  have hall : Lexeme.AllLead [] [.token .identifier name.toList] := ⟨hlead, trivial⟩
  have hcut := lexemes_of_allLead hall
  rwa [List.flatMap_singleton] at hcut

theorem tokenize_of_isName {name : String} (h : IsName name) :
    tokenize name =
      ([⟨.identifier, name, .start⟩, Token.ending (Position.start.after name.toList)],
        []) := by
  rw [tokenize, lexemes_of_isName h]
  simp [Lexeme.placedFrom, Lexeme.tokensOf, Lexeme.diagnosticsOf, Lexeme.token?,
    Lexeme.diagnostic?]

/-- The names are the identifiers. -/
theorem isName_iff_isIdentifier {name : String} : IsName name ↔ IsIdentifier name := by
  constructor
  · intro h
    exact ⟨_, _, tokenize_of_isName h, rfl, rfl, rfl⟩
  · rintro ⟨word, ending, htokenize, hkind, rfl, -⟩
    have hmem : word ∈ (tokenize word.text).1 := by
      rw [htokenize]
      exact List.mem_cons_self
    have hspelled : word.kind.Spells word.text := isSpelled_of_mem_tokenize word hmem
    rw [hkind] at hspelled
    exact hspelled

/-- A text that is a name is read as the script that calls it. -/
theorem Reading.ofText_of_isName {name : String} (h : IsName name) :
    ∃ reading, Reading.ofText name = .ok reading ∧ reading.diagnostics = [] ∧
      reading.script = Script.calling name := by
  let word : Terminal .identifier := ⟨⟨.identifier, name, .start⟩, rfl⟩
  let ending : Terminal .eof := ⟨Token.ending (Position.start.after name.toList), rfl⟩
  let tree : ScriptTree := ⟨[], [(.bare ⟨word, none⟩, [])], ending⟩
  have hbody : ∀ token ∈ [word.token], token.kind ≠ .eof := by
    simp [word]
  have htree : tree.tokens = [word.token] ++ [ending.token] := rfl
  have hscript := ScriptTree.ofTokens_of_tokens_eq hbody htree
  have htokens : (tokenize name).1 = [word.token] ++ [ending.token] := by
    rw [tokenize_of_isName h]
    rfl
  rw [← htokens] at hscript
  refine ⟨_, ofText_of_ofTokens hscript, ?_, rfl⟩
  rw [Reading.diagnostics, tokenize_of_isName h]
  rfl

/-! ## Letter case in ASCII -/

theorem isWordStart_toLower (c : Char) : isWordStart c.toLower = isWordStart c := by
  rw [Bool.eq_iff_iff, isWordStart_iff, isWordStart_iff, ← smallNarrow_eq_toLower,
    toNat_smallNarrow]
  split <;> omega

theorem isDigit_toLower (c : Char) : isDigit c.toLower = isDigit c := by
  rw [Bool.eq_iff_iff, isDigit_iff, isDigit_iff, ← smallNarrow_eq_toLower,
    toNat_smallNarrow]
  split <;> omega

theorem isWordPart_toLower (c : Char) : isWordPart c.toLower = isWordPart c := by
  rw [isWordPart, isWordPart, isWordStart_toLower, isDigit_toLower]

theorem isWord_toLower (name : String) : isWord name.toLower = isWord name := by
  have hlower : name.toLower.toList = name.toList.map Char.toLower := String.toList_map
  rw [isWord, isWord, hlower]
  cases name.toList with
  | nil => rfl
  | cons c rest =>
      rw [List.map_cons]
      simp only [isWordStart_toLower, List.all_map, Function.comp_def, isWordPart_toLower]

/-- Names that differ in the letter case of ASCII only have the same lower case. -/
theorem lowercase_of_toLower {name spelling : String} (h : isWord name = true)
    (hspelling : spelling.toLower = name.toLower) :
    isWord spelling = true ∧ lowercase spelling = lowercase name := by
  have hword : isWord spelling = true := by
    rw [← isWord_toLower, hspelling, isWord_toLower, h]
  rw [lowercase_of_isWord hword, lowercase_of_isWord h]
  exact ⟨hword, hspelling⟩

theorem IsName.of_toLower {name spelling : String} (h : IsName name)
    (hspelling : spelling.toLower = name.toLower) : IsName spelling := by
  obtain ⟨hword, hlower⟩ := lowercase_of_toLower h.1 hspelling
  refine ⟨hword, ?_⟩
  have hkeyword := h.2
  rw [keywordKind?] at hkeyword ⊢
  rwa [hlower]

/-! ## A tick of a single command -/

section Tick

variable {σ : Type} {registry : Registry σ} {handler : Handler σ}

/-- What is registered under a name is found under every spelling of it. -/
theorem Registry.lookup_put_of_toLower {name spelling : String} (h : IsName name)
    (hspelling : spelling.toLower = name.toLower) :
    (registry.put (lowercase name) handler).lookup spelling = some handler := by
  rw [lookup, put, lookup_putIn, if_pos (lowercase_of_toLower h.1 hspelling).2]

variable [World σ] {tolerance : Tolerance} {statement : Statement} {world : σ}

/-- A statement without a condition leaves the world that the handler of its command
leaves, whatever the handler reports. -/
theorem Statement.exists_leaves_run_of_lookup (hkind : statement.kind ≠ .conditional)
    (hlookup : registry.lookup statement.command.name = some handler) :
    ∃ result, (statement.run registry tolerance).Leaves world result
      (handler statement.command world).2 := by
  have hattempt : (statement.attempt registry tolerance).Leaves world
      ((handler statement.command world).1.map statement.endingOf)
      (handler statement.command world).2 := by
    rw [leaves_attempt_iff_of_kind hkind, leaves_carryOut_iff_of_some hlookup]
    exact ⟨_, rfl, rfl⟩
  simp only [Statement.run, Run.leaves_rescue_iff]
  by_cases h : ∃ kind name, (handler statement.command world).1.map statement.endingOf =
      .error (.unknownName kind name)
  · obtain ⟨kind, name, hname⟩ := h
    rw [hname] at hattempt
    exact ⟨_, Or.inl ⟨kind, name, _, hattempt, leaves_fail_iff.mpr ⟨rfl, rfl⟩⟩⟩
  · refine ⟨_, Or.inr ⟨hattempt, ?_⟩⟩
    intro kind name hname
    exact h ⟨kind, name, hname⟩

/-- A tick of a single statement without a condition leaves the world that the handler of
its command leaves. -/
theorem Script.world_tick_of_lookup (hkind : statement.kind ≠ .conditional)
    (hlookup : registry.lookup statement.command.name = some handler)
    {description : String} (hdescribe : World.describe world = .ok description) :
    ((Script.mk [statement]).tick registry tolerance world).world =
      (handler statement.command world).2 := by
  obtain ⟨result, hrun⟩ : ∃ result, (statement.run registry tolerance).Leaves world result
      (handler statement.command world).2 :=
    Statement.exists_leaves_run_of_lookup hkind hlookup
  have hstatements : ∃ result, (runStatements registry tolerance [statement]).Leaves world
      result (handler statement.command world).2 := by
    rw [runStatements]
    simp only [Run.leaves_bind_iff]
    cases result with
    | error fault => exact ⟨_, Or.inr ⟨fault, hrun, rfl⟩⟩
    | ok ending? =>
        cases ending? with
        | none => exact ⟨_, Or.inl ⟨none, _, hrun, rfl, rfl⟩⟩
        | some ending => exact ⟨_, Or.inl ⟨some ending, _, hrun, rfl, rfl⟩⟩
  obtain ⟨-, -, hworld⟩ := hstatements
  rw [(tick_of_describe hdescribe).2, hworld]

/-- A tick of a script that calls one command calls the handler of this command, once. -/
theorem Script.tick_audited_calling {name : String}
    (hlookup : registry.lookup name = some handler)
    {description : String} (hdescribe : World.describe world = .ok description) :
    ((Script.calling name).tick registry.audited tolerance ⟨world, []⟩).world =
      ⟨(handler ⟨name, []⟩ world).2, [⟨handler, ⟨name, []⟩⟩]⟩ := by
  have haudited : registry.audited.lookup name = some handler.audited := by
    rw [Registry.lookup_audited, hlookup, Option.map_some]
  have hkind : (Statement.mk .always ⟨name, []⟩ 1).kind ≠ .conditional := by
    simp [Statement.kind, Trigger.kind]
  have hstart : World.describe (Audited.mk world []) = .ok description := hdescribe
  exact world_tick_of_lookup hkind haudited hstart

end Tick

/-- The names that a handler can be registered under are those that a script can call.  A
handler is accepted under a name exactly if the name is one identifier.  Then every
spelling of the name in letters of ASCII is, as a text, a script of one command; a tick
of this script calls the handler, once and with this command, and no other handler. -/
theorem Registry.register_iff_isIdentifier {σ : Type} [World σ] (registry : Registry σ)
    (name : String) (handler : Handler σ) :
    ((∃ extended, registry.register name (some handler) = .ok extended) ↔
        IsIdentifier name) ∧
      ∀ extended, registry.register name (some handler) = .ok extended →
        ∀ spelling : String, spelling.toLower = name.toLower →
          ∃ reading, Reading.ofText spelling = .ok reading ∧ reading.diagnostics = [] ∧
            reading.script = ⟨[⟨.always, ⟨spelling, []⟩, 1⟩]⟩ ∧
            ∀ tolerance world description, World.describe world = .ok description →
              let plain := reading.script.tick extended tolerance world
              let audited :=
                reading.script.tick extended.audited tolerance ⟨world, []⟩
              audited.world.calls = [⟨handler, ⟨spelling, []⟩⟩] ∧
                plain.world = (handler ⟨spelling, []⟩ world).2 ∧
                audited.world.world = plain.world ∧ audited.tick = plain.tick := by
  constructor
  · rw [← isName_iff_isIdentifier]
    constructor
    · rintro ⟨extended, hregister⟩
      exact (register_eq_ok_iff.mp hregister).1
    · intro hname
      exact ⟨_, register_eq_ok_iff.mpr ⟨hname, handler, rfl, rfl⟩⟩
  · intro extended hregister spelling hspelling
    obtain ⟨hname, _, hgiven, rfl⟩ := register_eq_ok_iff.mp hregister
    cases hgiven
    have hlookup : (registry.put (lowercase name) handler).lookup spelling =
        some handler := lookup_put_of_toLower hname hspelling
    obtain ⟨reading, hread, hclean, hscript⟩ :=
      Reading.ofText_of_isName (hname.of_toLower hspelling)
    refine ⟨reading, hread, hclean, hscript, ?_⟩
    intro tolerance world description hdescribe
    rw [hscript]
    obtain ⟨htick, hworld, -⟩ := Script.tick_audited
      (registry.put (lowercase name) handler) tolerance (Script.calling spelling) world
    have hcalls : ((Script.calling spelling).tick
          (registry.put (lowercase name) handler).audited tolerance ⟨world, []⟩).world =
        ⟨(handler ⟨spelling, []⟩ world).2, [⟨handler, ⟨spelling, []⟩⟩]⟩ :=
      Script.tick_audited_calling hlookup hdescribe
    have hleft := congrArg Audited.world hcalls
    exact ⟨congrArg Audited.calls hcalls, hworld.symm.trans hleft, hworld, htick⟩

/-- A drone that waits when it is told to dance, and a name that is a keyword. -/
theorem Registry.register_iff_isIdentifier_dance :
    let dance : Handler Drone := BuiltIn.wait.handle
    let extended : Registry Drone := ⟨[("dance", dance)]⟩
    Registry.empty.register "Dance" (some dance) = .ok extended ∧ IsIdentifier "Dance" ∧
      ¬ IsIdentifier "Else" ∧
      ∃ reading, Reading.ofText "DANCE" = .ok reading ∧
        (reading.script.tick extended.audited .thousandth ⟨Drone.fresh, []⟩).world.calls =
          [⟨dance, ⟨"DANCE", []⟩⟩] := by
  intro dance extended
  have hregister : Registry.empty.register "Dance" (some dance) = .ok extended := rfl
  have helse : ∃ fault, Registry.empty.register "Else" (some dance) = .error fault :=
    ⟨_, rfl⟩
  obtain ⟨hiff, hcalls⟩ := register_iff_isIdentifier Registry.empty "Dance" dance
  refine ⟨hregister, hiff.mp ⟨_, hregister⟩, ?_, ?_⟩
  · intro hidentifier
    obtain ⟨_, hextended⟩ :=
      (register_iff_isIdentifier Registry.empty "Else" dance).1.mpr hidentifier
    obtain ⟨fault, hfault⟩ := helse
    rw [hfault] at hextended
    cases hextended
  · have hspelling : "DANCE".toLower = "Dance".toLower := by
      have hlower : ∀ text : String, text.toLower.toList = text.toList.map Char.toLower :=
        fun _ => String.toList_map
      apply String.toList_inj.mp
      rw [hlower, hlower]
      decide +kernel
    obtain ⟨reading, hread, -, -, htick⟩ := hcalls extended hregister "DANCE" hspelling
    have hok : (World.describe Drone.fresh).isOk = true := by decide +kernel
    cases hdescribe : World.describe Drone.fresh with
    | error fault =>
        rw [hdescribe] at hok
        cases hok
    | ok description => exact ⟨reading, hread, (htick .thousandth _ _ hdescribe).1⟩

end Autopilot
