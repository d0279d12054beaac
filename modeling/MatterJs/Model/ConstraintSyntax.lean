import MatterJs.Model.ConformanceSpelling
import MatterJs.Model.ConstraintParser

/-! `Serializer.serialize` of constraints, and what a constraint consists of that is parsed without
an error. -/

namespace MatterJs.Model.Constraint

open Conformance (FieldValue Symbol)

namespace Serializer

def serializeValue (inExpr : Bool) : Expression → List Char
  | .operator type lhs rhs =>
    let sum := serializeValue true lhs ++
      (' ' :: type.text.toList ++ ' ' :: serializeValue true rhs)
    if inExpr then '(' :: sum ++ [')'] else sum
  | .literal value => value.serialize
  | .boolean value => (if value then "true" else "false").toList
  | .reference name => name.toList

/-- A member that is neither undefined nor null -/
def present : Option Expression → Option Expression
  | some (.literal .null) => none
  | value => value

def serializeAtom (ast : Ast) : List Char :=
  if ast.desc then "desc".toList
  else
    match present ast.value, present ast.min, present ast.max, ast.inField with
    | some value, _, _, _ => serializeValue false value
    | none, some min, none, _ => "min ".toList ++ serializeValue false min
    | none, some min, some max, _ =>
      serializeValue false min ++ " to ".toList ++ serializeValue false max
    | none, none, some max, _ => "max ".toList ++ serializeValue false max
    | none, none, none, some name => "in ".toList ++ serializeValue false name
    | none, none, none, none => "all".toList

/-- Zero counts as if there were no limit. -/
def serializeCpMax : Option Decimal → List Char
  | some cpMax => if cpMax.mantissa ≠ 0 then '\x7b' :: cpMax.text ++ ['\x7d'] else []
  | none => []

mutual
def serialize : Ast → List Char
  | ⟨desc, value, min, max, inField, entry, cpMax, none⟩ =>
    let atom := serializeAtom { desc, value, min, max, inField }
    match entry with
    | some entry => atom ++ '[' :: serialize entry ++ [']']
    | none => atom ++ serializeCpMax cpMax
  | ⟨_, _, _, _, _, _, _, some parts⟩ => serializeParts parts

/-- The parts with `join(", ")` -/
def serializeParts : List Ast → List Char
  | [] => []
  | [part] => serialize part
  | part :: parts => serialize part ++ ',' :: ' ' :: serializeParts parts
end

end Serializer

def decimalOf : FieldValue → List Decimal
  | .number value | .percent value | .celsius value => [value]
  | .null => []

namespace Expression

def names : Expression → List String
  | reference name => [name]
  | operator _ lhs rhs => lhs.names ++ rhs.names
  | literal _ | boolean _ => []

def numbers : Expression → List Decimal
  | literal value => decimalOf value
  | operator _ lhs rhs => lhs.numbers ++ rhs.numbers
  | boolean _ | reference _ => []

end Expression

namespace Ast

def expressions (ast : Ast) : List Expression :=
  ast.value.toList ++ ast.min.toList ++ ast.max.toList ++ ast.inField.toList

variable {α : Type}

mutual
/-- What is in a tree, in its entry and in its parts, at any depth -/
def gather (own : Ast → List α) : Ast → List α
  | ⟨desc, value, min, max, inField, entry, cpMax, parts⟩ =>
    own { desc, value, min, max, inField, cpMax } ++
      (match entry with
      | some entry => gather own entry
      | none => []) ++
      (match parts with
      | some parts => gatherParts own parts
      | none => [])

def gatherParts (own : Ast → List α) : List Ast → List α
  | [] => []
  | part :: parts => gather own part ++ gatherParts own parts
end

def names : Ast → List String := gather fun ast => ast.expressions.flatMap Expression.names

def limits : Ast → List Decimal := gather fun ast => ast.cpMax.toList

def numbers : Ast → List Decimal :=
  gather fun ast => ast.expressions.flatMap Expression.numbers ++ ast.cpMax.toList

theorem gatherParts_eq (own : Ast → List α) (parts : List Ast) :
    gatherParts own parts = parts.flatMap (gather own) := by
  induction parts with
  | nil => rfl
  | cons part parts induction => rw [gatherParts, induction, List.flatMap_cons]

theorem gather_partsAsAst {own : Ast → List α} (empty : own {} = []) (parts : List Ast) :
    gather own (Parser.partsAsAst parts) = parts.flatMap (gather own) := by
  match parts with
  | [] =>
    change own {} ++ [] ++ [] = []
    rw [empty]
    rfl
  | [part] => exact (List.append_nil _).symm
  | first :: second :: parts =>
    change own {} ++ [] ++ gatherParts own (first :: second :: parts) = _
    rw [empty, gatherParts_eq]
    rfl

end Ast

inductive Atom where
  | all
  | desc
  | bound (kind : Parser.Bound) (limit : Expression)
  | inField (name : String)
  | value (content : Expression)
  | range (min max : Expression)

def Atom.ast : Atom → Ast
  | all => {}
  | desc => { desc := true }
  | bound kind limit => kind.ast limit
  | inField name => { inField := some (.reference name) }
  | value content => { value := some content }
  | range min max => { min := some min, max := some max }

def Atom.expressions : Atom → List Expression
  | all | desc => []
  | bound _ limit => [limit]
  | value content => [content]
  | inField name => [.reference name]
  | range min max => [min, max]

inductive Part where
  | plain (atom : Atom)
  | limited (atom : Atom) (cpMax : Decimal)
  | withEntry (atom : Atom) (first : Part) (others : List Part)

namespace Part

mutual
def ast : Part → Ast
  | plain atom => atom.ast
  | limited atom cpMax => { atom.ast with cpMax := some cpMax }
  | withEntry atom first others =>
    { atom.ast with entry := some (Parser.partsAsAst (first.ast :: asts others)) }

def asts : List Part → List Ast
  | [] => []
  | part :: parts => part.ast :: asts parts
end

theorem asts_eq (parts : List Part) : asts parts = parts.map ast := by
  induction parts with
  | nil => rfl
  | cons part parts induction => rw [asts, induction, List.map_cons]

end Part

theorem Atom.expressions_ast (atom : Atom) : atom.ast.expressions = atom.expressions := by
  cases atom with
  | bound kind limit => cases kind <;> rfl
  | _ => rfl

section Gather

variable {α : Type} {own : Ast → List α}

theorem gather_plain (atom : Atom) : (Part.plain atom).ast.gather own = own atom.ast := by
  refine Eq.trans ?_ ((List.append_nil _).trans (List.append_nil _))
  cases atom with
  | bound kind limit => cases kind <;> rfl
  | _ => rfl

theorem gather_limited (atom : Atom) (cpMax : Decimal) :
    (Part.limited atom cpMax).ast.gather own = own { atom.ast with cpMax := some cpMax } := by
  refine Eq.trans ?_ ((List.append_nil _).trans (List.append_nil _))
  cases atom with
  | bound kind limit => cases kind <;> rfl
  | _ => rfl

theorem gather_parts (empty : own {} = []) (parts : List Part) :
    (Parser.partsAsAst (Part.asts parts)).gather own =
      parts.flatMap fun part => part.ast.gather own := by
  rw [Part.asts_eq, Ast.gather_partsAsAst empty, List.flatMap_map]

theorem gather_withEntry (empty : own {} = []) (atom : Atom) (first : Part) (others : List Part) :
    (Part.withEntry atom first others).ast.gather own =
      own atom.ast ++ (first :: others).flatMap fun part => part.ast.gather own := by
  rw [← gather_parts empty]
  refine Eq.trans ?_ (List.append_nil _)
  cases atom with
  | bound kind limit => cases kind <;> rfl
  | _ => rfl

end Gather

end MatterJs.Model.Constraint
