import MatterJs.Model.ConstraintSyntax

/-! What the parser reads where it reports nothing. -/

namespace MatterJs.Model.Constraint

open Conformance (FieldValue Symbol IsUnsigned)

/-! ## Tokens and the trees of them -/

structure IsName (name : String) : Prop where
  isWord : Conformance.IsWord name.toList
  noKeyword : Parser.withKeywords (.word name) = .word name
  isCamel : camelize name false = name

/-- What the lexer makes -/
def IsFine : Token → Prop
  | .word name => IsName name
  | .value value => IsUnsigned value
  | .keyword _ | .symbol _ => True

namespace Expression

def IsFine : Expression → Prop
  | literal value => value ≠ .null
  | boolean _ => True
  | reference name => IsName name
  | operator _ lhs rhs => lhs.IsFine ∧ rhs.IsFine

end Expression

def Atom.IsFine (atom : Atom) : Prop := ∀ value ∈ atom.expressions, value.IsFine

namespace Part

mutual
def IsFine : Part → Prop
  | plain atom => atom.IsFine
  | limited atom cpMax => atom.IsFine ∧ cpMax.negative = false
  | withEntry atom first others => atom.IsFine ∧ first.IsFine ∧ AllFine others

def AllFine : List Part → Prop
  | [] => True
  | part :: parts => part.IsFine ∧ AllFine parts
end

end Part

def isWord : Token → Bool
  | .word _ => true
  | _ => false

def wordCount (tokens : List Token) : Nat := tokens.countP isWord

def braceCount (tokens : List Token) : Nat := tokens.count (.symbol .openBrace)

namespace Parser

/-- Nothing is reported from one state to the other. Each name is a word, and each limit has a
brace. -/
structure Reads (state rest : State) (names : List String) (limits : List Decimal) : Prop where
  noErrors : state.errors = []
  words : wordCount state.tokens = names.length + wordCount rest.tokens
  braces : limits.length + braceCount rest.tokens ≤ braceCount state.tokens
  suffix : rest.tokens <:+ state.tokens

namespace Reads

variable {state middle rest : State}

theorem refl (noErrors : state.errors = []) : Reads state state [] [] :=
  ⟨noErrors, (Nat.zero_add _).symm, (Nat.zero_add _).le, List.suffix_refl _⟩

theorem trans {names others : List String} {limits more : List Decimal}
    (first : Reads state middle names limits) (second : Reads middle rest others more) :
    Reads state rest (names ++ others) (limits ++ more) := by
  refine ⟨first.noErrors, ?_, ?_, second.suffix.trans first.suffix⟩
  · rw [first.words, second.words, List.length_append, Nat.add_assoc]
  · have firstBraces := first.braces
    have secondBraces := second.braces
    rw [List.length_append]
    omega

theorem next {token : Token} {tokens : List Token} (isNext : state.tokens = token :: tokens)
    (noWord : isWord token = false) (noErrors : state.next.errors = []) :
    Reads state state.next [] [] := by
  have tokensNext : state.next.tokens = tokens := by rw [State.next, isNext]; rfl
  refine ⟨noErrors, ?_, ?_, ?_⟩
  · rw [tokensNext, isNext, wordCount, List.countP_cons, noWord]
    exact (Nat.zero_add _).symm
  · rw [tokensNext, isNext]
    exact (Nat.zero_add _).trans_le (List.count_le_count_cons)
  · rw [tokensNext, isNext]
    exact List.suffix_cons _ _

theorem word {name : String} {tokens : List Token} (isNext : state.tokens = .word name :: tokens)
    (noErrors : state.next.errors = []) (other : String) : Reads state state.next [other] [] := by
  have tokensNext : state.next.tokens = tokens := by rw [State.next, isNext]; rfl
  refine ⟨noErrors, ?_, ?_, ?_⟩
  · rw [tokensNext, isNext, wordCount, List.countP_cons_of_pos rfl]
    exact Nat.add_comm _ _
  · rw [tokensNext, isNext]
    exact (Nat.zero_add _).trans_le (List.count_le_count_cons)
  · rw [tokensNext, isNext]
    exact List.suffix_cons _ _

theorem brace {tokens : List Token} (isNext : state.tokens = .symbol .openBrace :: tokens)
    (noErrors : state.next.errors = []) (limit : Decimal) :
    Reads state state.next [] [limit] := by
  have read := Reads.next isNext rfl noErrors
  have tokensNext : state.next.tokens = tokens := by rw [State.next, isNext]; rfl
  refine ⟨noErrors, read.words, ?_, read.suffix⟩
  rw [tokensNext, isNext, braceCount, braceCount, List.count_cons_self]
  exact (Nat.add_comm _ _).le

end Reads

theorem State.error_ne (state : State) (code message : String) :
    (state.error code message).errors ≠ [] := List.append_ne_nil_of_right_ne_nil _ (by simp)

theorem expect_read {state : State} {symbol : Symbol} {code message : String}
    (noErrors : (state.expect symbol code message).next.errors = []) :
    (state.expect symbol code message).next = state.next ∧
      Reads state state.next [] [] ∧
      ∃ tokens, state.tokens = .symbol symbol :: tokens := by
  rw [State.expect] at noErrors ⊢
  split at noErrors
  · rename_i there
    rw [if_pos there]
    rw [State.atSymbol, decide_eq_true_iff, List.head?_eq_some_iff] at there
    rcases there with ⟨tokens, isNext⟩
    exact ⟨rfl, Reads.next isNext rfl noErrors, tokens, isNext⟩
  · exact absurd noErrors (State.error_ne _ _ _)

structure ReadsValue (state : State) (value : Option Expression) (rest : State) : Prop where
  reads : Reads state rest (value.toList.flatMap Expression.names) []
  fine : (∀ token ∈ state.tokens, IsFine token) → ∀ content ∈ value, content.IsFine

theorem parseSigned_read {type : Sign} {state rest : State} {value : Option Expression}
    (parsed : parseSigned type state = (value, rest)) (noErrors : rest.errors = []) :
    ReadsValue state value rest := by
  unfold parseSigned at parsed
  split at parsed
  · rename_i number tokens isNext
    split at parsed
    · rename_i isSigned
      cases parsed
      refine ⟨Reads.next isNext rfl noErrors, fun fine content member => ?_⟩
      have unsigned : IsUnsigned number := fine (.value number) (by
        rw [isNext]
        exact List.mem_cons_self)
      cases member
      rintro rfl
      cases type <;> cases number <;> cases isSigned
      exact unsigned
    · cases parsed
      exact absurd noErrors (State.error_ne _ _ _)
  · cases parsed
    exact absurd noErrors (State.error_ne _ _ _)

theorem operator_read {state : State} {type : Sign} (isNext : state.operator? = some type)
    (noErrors : state.next.errors = []) : Reads state state.next [] [] := by
  unfold State.operator? at isNext
  split at isNext
  · rename_i tokens
    exact Reads.next tokens rfl noErrors
  · rename_i tokens
    exact Reads.next tokens rfl noErrors
  · cases isNext

mutual
theorem parseExpression_read (fuel : Nat) {state rest : State} {value : Option Expression}
    (parsed : parseExpression fuel state = some (value, rest)) (noErrors : rest.errors = []) :
    ReadsValue state value rest := by
  cases fuel with
  | zero => cases parsed
  | succ fuel =>
    rw [parseExpression, Option.bind_eq_some_iff] at parsed
    rcases parsed with ⟨⟨lhs, middle⟩, lhsParsed, parsed⟩
    dsimp only at parsed
    split at parsed
    · rename_i lhs type isNext
      rw [Option.map_eq_some_iff] at parsed
      rcases parsed with ⟨⟨rhs, last⟩, rhsParsed, parsed⟩
      cases rhs with
      | none =>
        cases parsed
        exact absurd noErrors (State.error_ne _ _ _)
      | some rhs =>
        cases parsed
        have rhsRead := parseValueExpression_read fuel rhsParsed noErrors
        have operatorRead := operator_read isNext rhsRead.reads.noErrors
        have lhsRead := parseValueExpression_read fuel lhsParsed operatorRead.noErrors
        have reads := (lhsRead.reads.trans operatorRead).trans rhsRead.reads
        refine ⟨?_, fun fine content member => ?_⟩
        · simpa [Expression.names] using reads
        · cases member
          refine ⟨lhsRead.fine fine lhs rfl, rhsRead.fine (fun token inside => ?_) rhs rfl⟩
          exact fine token ((operatorRead.suffix.trans lhsRead.reads.suffix).subset inside)
    · cases parsed
      exact parseValueExpression_read fuel lhsParsed noErrors

theorem parseValueExpression_read (fuel : Nat) {state rest : State} {value : Option Expression}
    (parsed : parseValueExpression fuel state = some (value, rest))
    (noErrors : rest.errors = []) : ReadsValue state value rest := by
  cases fuel with
  | zero => cases parsed
  | succ fuel =>
    rw [parseValueExpression] at parsed
    split at parsed
    · rename_i number tokens isNext
      cases parsed
      refine ⟨Reads.next isNext rfl noErrors, fun fine content member => ?_⟩
      have unsigned : IsUnsigned number := fine (.value number) (by
        rw [isNext]
        exact List.mem_cons_self)
      cases member
      rintro rfl
      exact unsigned
    · rename_i isNext
      cases parsed
      exact ⟨Reads.next isNext rfl noErrors, fun _ _ member => by cases member; trivial⟩
    · rename_i isNext
      cases parsed
      exact ⟨Reads.next isNext rfl noErrors, fun _ _ member => by cases member; trivial⟩
    · rename_i name tokens isNext
      cases parsed
      refine ⟨Reads.word isNext noErrors _, fun fine content member => ?_⟩
      have isName : IsName name := fine (.word name) (by
        rw [isNext]
        exact List.mem_cons_self)
      cases member
      rw [isName.isCamel]
      exact isName
    · rename_i isNext
      have signedRead := parseSigned_read (Option.some.inj parsed) noErrors
      have signRead := Reads.next isNext rfl signedRead.reads.noErrors
      refine ⟨signRead.trans signedRead.reads, fun fine => signedRead.fine fun token inside => ?_⟩
      exact fine token (signRead.suffix.subset inside)
    · rename_i isNext
      have signedRead := parseSigned_read (Option.some.inj parsed) noErrors
      have signRead := Reads.next isNext rfl signedRead.reads.noErrors
      refine ⟨signRead.trans signedRead.reads, fun fine => signedRead.fine fun token inside => ?_⟩
      exact fine token (signRead.suffix.subset inside)
    · rename_i isNext
      rw [Option.map_eq_some_iff] at parsed
      rcases parsed with ⟨⟨result, last⟩, innerParsed, parsed⟩
      cases parsed
      rcases expect_read noErrors with ⟨same, endRead, _⟩
      have innerRead := parseExpression_read fuel innerParsed endRead.noErrors
      have openRead := Reads.next isNext rfl innerRead.reads.noErrors
      have reads := (openRead.trans innerRead.reads).trans endRead
      rw [same]
      refine ⟨by simpa using reads, fun fine => innerRead.fine fun token inside => ?_⟩
      exact fine token (openRead.suffix.subset inside)
    · cases parsed
      exact ⟨Reads.refl noErrors, nofun⟩
end

structure ReadsPart (state : State) (part : Part) (rest : State) : Prop where
  reads : Reads state rest part.ast.names part.ast.limits
  fine : (∀ token ∈ state.tokens, IsFine token) → part.IsFine

variable (atom : Atom)

theorem names_plain : (Part.plain atom).ast.names = atom.expressions.flatMap Expression.names := by
  rw [← atom.expressions_ast]
  exact gather_plain atom

theorem limits_atom : atom.ast.cpMax = none := by
  cases atom with
  | bound kind limit => cases kind <;> rfl
  | _ => rfl

theorem limits_plain : (Part.plain atom).ast.limits = [] := by
  refine (gather_plain atom).trans ?_
  rw [limits_atom]
  rfl

structure ReadsAtom (state : State) (atom : Atom) (rest : State) : Prop where
  reads : Reads state rest (atom.expressions.flatMap Expression.names) []
  fine : (∀ token ∈ state.tokens, IsFine token) → atom.IsFine

theorem parseSingleBound_read {fuel : Nat} {kind : Bound} {state rest : State}
    {ast : Option Ast} (parsed : parseSingleBound fuel kind state = some (ast, rest))
    (noErrors : rest.errors = []) :
    ∃ atom : Atom, ast = some atom.ast ∧ ReadsAtom state atom rest := by
  rw [parseSingleBound, Option.map_eq_some_iff] at parsed
  rcases parsed with ⟨⟨limit, last⟩, limitParsed, parsed⟩
  cases limit with
  | none =>
    cases parsed
    exact absurd noErrors (State.error_ne _ _ _)
  | some limit =>
    cases parsed
    have limitRead := parseExpression_read fuel limitParsed noErrors
    refine ⟨.bound kind limit, rfl, limitRead.reads, fun fine value member => ?_⟩
    cases List.mem_singleton.mp member
    exact limitRead.fine fine limit rfl

theorem parseRange_read {fuel : Nat} {state rest : State} {ast : Option Ast}
    (parsed : parseRange fuel state = some (ast, rest)) (noErrors : rest.errors = []) :
    ∃ atom : Atom, ast = some atom.ast ∧ ReadsAtom state atom rest := by
  rw [parseRange, Option.bind_eq_some_iff] at parsed
  rcases parsed with ⟨⟨min, middle⟩, minParsed, parsed⟩
  dsimp only at parsed
  split at parsed
  · rename_i min isTo
    rw [Option.map_eq_some_iff] at parsed
    rcases parsed with ⟨⟨max, last⟩, maxParsed, parsed⟩
    cases max with
    | none =>
      cases parsed
      exact absurd noErrors (State.error_ne _ _ _)
    | some max =>
      cases parsed
      have maxRead := parseExpression_read fuel maxParsed noErrors
      rw [State.atTo, decide_eq_true_iff, List.head?_eq_some_iff] at isTo
      rcases isTo with ⟨tokens, isNext⟩
      have toRead := Reads.next isNext rfl maxRead.reads.noErrors
      have minRead := parseExpression_read fuel minParsed toRead.noErrors
      have reads := (minRead.reads.trans toRead).trans maxRead.reads
      refine ⟨.range min max, rfl, by simpa [Atom.expressions] using reads, ?_⟩
      intro fine value member
      rcases List.mem_pair.mp member with rfl | rfl
      · exact minRead.fine fine _ rfl
      · refine maxRead.fine (fun token inside => ?_) _ rfl
        exact fine token ((toRead.suffix.trans minRead.reads.suffix).subset inside)
  · rename_i value _ _ _
    cases parsed
    have read := parseExpression_read fuel minParsed noErrors
    cases value with
    | none => exact ⟨.all, rfl, read.reads, nofun⟩
    | some content =>
      refine ⟨.value content, rfl, read.reads, fun fine value member => ?_⟩
      cases List.mem_singleton.mp member
      exact read.fine fine content rfl

theorem parsePartWithoutSubconstraint_read {fuel : Nat} {state rest : State}
    {ast : Option Ast} (parsed : parsePartWithoutSubconstraint fuel state = some (ast, rest))
    (noErrors : rest.errors = []) :
    ast = none ∧ state.tokens = [] ∧ rest = state ∨
      ∃ atom : Atom, ast = some atom.ast ∧ ReadsAtom state atom rest := by
  unfold parsePartWithoutSubconstraint at parsed
  -- A keyword is in front of what is read.
  have behind {token : Token} {tokens : List Token} (isNext : state.tokens = token :: tokens)
      (noWord : isWord token = false)
      (read : ∃ atom : Atom, ast = some atom.ast ∧ ReadsAtom state.next atom rest) :
      ∃ atom : Atom, ast = some atom.ast ∧ ReadsAtom state atom rest := by
    rcases read with ⟨atom, same, read⟩
    have first := Reads.next isNext noWord read.reads.noErrors
    refine ⟨atom, same, first.trans read.reads, fun fine => read.fine fun token inside => ?_⟩
    exact fine token (first.suffix.subset inside)
  split at parsed
  · rename_i isEmpty
    cases parsed
    exact .inl ⟨rfl, isEmpty, rfl⟩
  · rename_i isNext
    cases parsed
    exact .inr (behind isNext rfl ⟨.desc, rfl, Reads.refl noErrors, fun _ => nofun⟩)
  · rename_i isNext
    cases parsed
    exact .inr (behind isNext rfl ⟨.all, rfl, Reads.refl noErrors, fun _ => nofun⟩)
  · rename_i isNext
    exact .inr (behind isNext rfl (parseSingleBound_read parsed noErrors))
  · rename_i isNext
    exact .inr (behind isNext rfl (parseSingleBound_read parsed noErrors))
  · rename_i name tokens isNext
    cases parsed
    have nameNext : state.next.tokens = .word name :: tokens := by
      rw [State.next, isNext]
      rfl
    refine .inr (behind isNext rfl ⟨.inField name, rfl, Reads.word nameNext noErrors name, ?_⟩)
    intro fine value member
    cases List.mem_singleton.mp member
    exact fine (.word name) (by rw [nameNext]; exact List.mem_cons_self)
  · rcases parseRange_read parsed noErrors with ⟨atom, _, read⟩
    exact absurd read.reads.noErrors (State.error_ne _ _ _)
  · exact .inr (parseRange_read parsed noErrors)

theorem names_limited (cpMax : Decimal) :
    (Part.limited atom cpMax).ast.names = atom.expressions.flatMap Expression.names := by
  rw [← atom.expressions_ast]
  exact gather_limited atom cpMax

theorem limits_limited (cpMax : Decimal) : (Part.limited atom cpMax).ast.limits = [cpMax] :=
  gather_limited atom cpMax

theorem names_withEntry (first : Part) (others : List Part) :
    (Part.withEntry atom first others).ast.names =
      atom.expressions.flatMap Expression.names ++
        (first :: others).flatMap fun part => part.ast.names := by
  rw [← atom.expressions_ast]
  exact gather_withEntry rfl atom first others

theorem limits_withEntry (first : Part) (others : List Part) :
    (Part.withEntry atom first others).ast.limits =
      (first :: others).flatMap fun part => part.ast.limits := by
  refine (gather_withEntry rfl atom first others).trans ?_
  rw [limits_atom]
  rfl

theorem parseCpMax_read {state rest : State} {cpMax : Option Decimal}
    (parsed : parseCpMax state = (cpMax, rest)) (noErrors : rest.errors = []) :
    Reads state rest [] [] ∧
      ((∀ token ∈ state.tokens, IsFine token) → ∀ limit ∈ cpMax, limit.negative = false) := by
  unfold parseCpMax at parsed
  split at parsed
  · rename_i value tokens isNext
    cases parsed
    refine ⟨Reads.next isNext rfl noErrors, fun fine limit member => ?_⟩
    have unsigned : IsUnsigned value := fine (.value value) (by
      rw [isNext]
      exact List.mem_cons_self)
    cases value <;> cases member <;> exact unsigned
  · cases parsed
    split at noErrors
    · exact absurd noErrors (State.error_ne _ _ _)
    · exact absurd noErrors (State.error_ne _ _ _)

structure ReadsParts (state : State) (parts : List Part) (rest : State) : Prop where
  reads : Reads state rest (parts.flatMap fun part => part.ast.names)
    (parts.flatMap fun part => part.ast.limits)
  fine : (∀ token ∈ state.tokens, IsFine token) → Part.AllFine parts
  nothing : parts = [] → state.tokens = []
  ends : rest.atSymbol .comma = false

mutual
theorem parseParts_read (fuel : Nat) {state rest : State} {before : List Ast} {ast : Ast}
    (parsed : parseParts fuel before state = some (ast, rest)) (noErrors : rest.errors = []) :
    ∃ parts : List Part, ast = partsAsAst (before ++ Part.asts parts) ∧
      ReadsParts state parts rest := by
  cases fuel with
  | zero => cases parsed
  | succ fuel =>
    rw [parseParts, Option.bind_eq_some_iff] at parsed
    rcases parsed with ⟨⟨part, middle⟩, partParsed, parsed⟩
    dsimp only at parsed
    split at parsed
    · rename_i isComma
      rw [State.atSymbol, decide_eq_true_iff, List.head?_eq_some_iff] at isComma
      rcases isComma with ⟨tokens, isNext⟩
      rcases parseParts_read fuel parsed noErrors with ⟨others, same, othersRead⟩
      have commaRead := Reads.next isNext rfl othersRead.reads.noErrors
      rcases parsePart_read fuel partParsed commaRead.noErrors with
        ⟨rfl, isEmpty, rfl⟩ | ⟨part, rfl, partRead⟩
      · rw [isEmpty] at isNext
        cases isNext
      · have reads := (partRead.reads.trans commaRead).trans othersRead.reads
        rw [List.append_nil, List.append_nil] at reads
        refine ⟨part :: others, by rw [same, List.append_assoc]; rfl, reads,
          fun fine => ⟨partRead.fine fine, othersRead.fine fun token inside => ?_⟩, nofun,
          othersRead.ends⟩
        exact fine token ((commaRead.suffix.trans partRead.reads.suffix).subset inside)
    · rename_i noComma
      rw [Bool.not_eq_true] at noComma
      cases parsed
      rcases parsePart_read fuel partParsed noErrors with
        ⟨rfl, isEmpty, rfl⟩ | ⟨part, rfl, partRead⟩
      · exact ⟨[], rfl, Reads.refl noErrors, fun _ => trivial, fun _ => isEmpty, noComma⟩
      · refine ⟨[part], rfl, ?_, fun fine => ⟨partRead.fine fine, trivial⟩, nofun, noComma⟩
        simpa using partRead.reads

theorem parsePart_read (fuel : Nat) {state rest : State} {ast : Option Ast}
    (parsed : parsePart fuel state = some (ast, rest)) (noErrors : rest.errors = []) :
    ast = none ∧ state.tokens = [] ∧ rest = state ∨
      ∃ part : Part, ast = some part.ast ∧ ReadsPart state part rest := by
  cases fuel with
  | zero => cases parsed
  | succ fuel =>
    rw [parsePart, Option.bind_eq_some_iff] at parsed
    rcases parsed with ⟨⟨result, middle⟩, atomParsed, parsed⟩
    dsimp only at parsed
    split at parsed
    · rename_i result _ tokens isNext
      rw [Option.map_eq_some_iff] at parsed
      rcases parsed with ⟨⟨entry, last⟩, entryParsed, parsed⟩
      cases parsed
      rcases expect_read noErrors with ⟨same, endRead, endTokens, isEnd⟩
      rcases parseParts_read fuel entryParsed endRead.noErrors with ⟨parts, rfl, entryRead⟩
      have openRead := Reads.next isNext rfl entryRead.reads.noErrors
      rcases parsePartWithoutSubconstraint_read atomParsed openRead.noErrors with
        ⟨absent, _, _⟩ | ⟨atom, present, atomRead⟩
      · cases absent
      · cases present
        cases parts with
        | nil =>
          -- The bracket at the end is a token.
          have nothing := entryRead.nothing rfl
          have suffix := entryRead.reads.suffix
          rw [nothing, isEnd] at suffix
          exact absurd (List.suffix_nil.mp suffix) nofun
        | cons first others =>
          have reads := ((atomRead.reads.trans openRead).trans entryRead.reads).trans endRead
          rw [List.append_nil, List.append_nil, List.append_nil] at reads
          rw [same]
          refine .inr ⟨.withEntry atom first others, rfl, ?_, fun fine => ?_⟩
          · rw [names_withEntry, limits_withEntry]
            exact reads
          · refine ⟨atomRead.fine fine, entryRead.fine fun token inside => ?_⟩
            exact fine token ((openRead.suffix.trans atomRead.reads.suffix).subset inside)
    · rename_i result _ tokens isNext
      cases limit : parseCpMax middle.next with
      | mk cpMax last =>
        rw [limit] at parsed
        cases parsed
        rcases expect_read noErrors with ⟨same, endRead, _⟩
        rcases parseCpMax_read limit endRead.noErrors with ⟨limitRead, unsigned⟩
        have openRead := Reads.next isNext rfl limitRead.noErrors
        rcases parsePartWithoutSubconstraint_read atomParsed openRead.noErrors with
          ⟨absent, _, _⟩ | ⟨atom, present, atomRead⟩
        · cases absent
        · cases present
          rw [same]
          cases cpMax with
          | none =>
            -- A temperature is no limit.
            have reads := ((atomRead.reads.trans openRead).trans limitRead).trans endRead
            have noLimit : { atom.ast with cpMax := none } = (Part.plain atom).ast := by
              cases atom with
              | bound kind limit => cases kind <;> rfl
              | _ => rfl
            refine .inr ⟨.plain atom, by rw [noLimit], ?_, atomRead.fine⟩
            rw [names_plain, limits_plain]
            simpa using reads
          | some cpMax =>
            have braceRead := Reads.brace isNext limitRead.noErrors cpMax
            have reads := ((atomRead.reads.trans braceRead).trans limitRead).trans endRead
            refine .inr ⟨.limited atom cpMax, rfl, ?_, fun fine => ⟨atomRead.fine fine, ?_⟩⟩
            · rw [names_limited, limits_limited]
              simpa using reads
            · refine unsigned (fun token inside => ?_) cpMax rfl
              exact fine token ((openRead.suffix.trans atomRead.reads.suffix).subset inside)
    · cases parsed
      rcases parsePartWithoutSubconstraint_read atomParsed noErrors with
        absent | ⟨atom, rfl, atomRead⟩
      · exact .inl absent
      · refine .inr ⟨.plain atom, rfl, ?_, atomRead.fine⟩
        rw [names_plain, limits_plain]
        exact atomRead.reads
end

theorem parse_read {definition : List Char} {ast : Ast}
    (parsed : parse definition = some (ast, [])) :
    ∃ first others, ast = partsAsAst (Part.asts (first :: others)) ∧
      wordCount (lex definition).1 = ast.names.length ∧
      ast.limits.length ≤ braceCount (lex definition).1 ∧
      (lex definition).2 = [] ∧
      ((∀ token ∈ (lex definition).1, IsFine token) → Part.AllFine (first :: others)) := by
  rw [parse, Option.map_eq_some_iff] at parsed
  rcases parsed with ⟨⟨result, rest⟩, partsParsed, parsed⟩
  have same : result = ast := congrArg Prod.fst parsed
  have noErrors : (reportUnexpected rest).errors = [] := congrArg Prod.snd parsed
  subst same
  have restErrors : rest.errors = [] := by
    unfold reportUnexpected at noErrors
    split at noErrors
    · exact noErrors
    · exact noErrors
    · exact absurd noErrors (State.error_ne _ _ _)
  rcases parseParts_read _ partsParsed restErrors with ⟨parts, rfl, read⟩
  have atEnd : rest.tokens = [] := by
    unfold reportUnexpected at noErrors
    split at noErrors
    · assumption
    · rename_i isNext
      have noComma := read.ends
      rw [State.atSymbol, isNext] at noComma
      cases noComma
    · exact absurd noErrors (State.error_ne _ _ _)
  have words := read.reads.words
  have braces := read.reads.braces
  rw [atEnd] at words braces
  have names : (partsAsAst (Part.asts parts)).names = parts.flatMap fun part => part.ast.names :=
    gather_parts rfl parts
  have limits : (partsAsAst (Part.asts parts)).limits =
      parts.flatMap fun part => part.ast.limits := gather_parts rfl parts
  cases parts with
  | nil => exact ⟨.plain .all, [], rfl, words, Nat.zero_le _, read.reads.noErrors,
      fun _ => ⟨nofun, trivial⟩⟩
  | cons first others =>
    refine ⟨first, others, rfl, ?_, ?_, read.reads.noErrors, read.fine⟩
    · rw [List.nil_append, names]
      exact words
    · rw [List.nil_append, limits]
      exact braces

end Parser

end MatterJs.Model.Constraint
