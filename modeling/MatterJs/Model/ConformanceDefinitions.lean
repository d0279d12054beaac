import MatterJs.Model.ConformanceFreezing

/-! Definitions are parsed or reported. -/

namespace MatterJs.Model.Conformance

open Parser

/-- Every " or " is written as " | ", also where two of them share a space. -/
def replaceEvery : List Char → List Char
  | ' ' :: 'o' :: 'r' :: ' ' :: text => ' ' :: '|' :: replaceEvery (' ' :: text)
  | char :: text => char :: replaceEvery text
  | [] => []

/-- The tree is complete or an error is reported, it is frozen, and "or" is read as "|". -/
def ParsedOrReported (definition : List Char) : Prop :=
  ∃ ast errors, parsedAst definition = some (ast, errors) ∧
    (WellFormed ast ∨ errors ≠ []) ∧ freezeAst ast = .ok () ∧
    parseText (replaceEvery definition) = some (ast, errors)

theorem parseText_nothing {text : List Char} (nothing : Lexer.lex text = ([], [])) :
    parseText text = some (.group [], []) := by
  rw [parseText, nothing]
  rfl

theorem wellFormed_or_reported {text : List Char} {ast : Ast} {errors : List SyntaxError}
    (parsed : parseText text = some (ast, errors)) (something : Lexer.lex text ≠ ([], [])) :
    WellFormed ast ∨ errors ≠ [] := by
  rcases lexed : Lexer.lex text with ⟨tokens, lexErrors⟩
  rw [parseText, lexed] at parsed
  rcases Option.map_eq_some_iff.mp parsed with ⟨⟨tree, state⟩, group, equal⟩
  rcases equal with ⟨⟩
  rcases parseGroup_reports .wellFormed _ group fun _ _ => trivial with ⟨_, more, same, proof⟩
  by_cases reported : lexErrors ++ more = []
  · rcases List.append_eq_nil_iff.mp reported with ⟨rfl, noMore⟩
    refine .inl (proof noMore (by simp) (.inr (.inr fun noTokens => something ?_)))
    rw [lexed]
    exact congrArg (·, []) noTokens
  · refine .inr fun empty => reported ?_
    rw [← same]
    exact empty

end MatterJs.Model.Conformance
