import Mathlib.Data.List.Basic

/-! `camelize`: identifiers in camel case. -/

namespace MatterJs.Camelize

/-- What the loop over the characters keeps -/
structure Scan where
  pieces : List (List Char)
  pieceStart : Nat
  sawUpper : Bool
  sawLower : Bool

namespace Scan

def addPiece (name : List Char) (ends : Nat) (scan : Scan) : Scan :=
  { scan with
    pieces :=
      if scan.pieceStart < ends then
        scan.pieces ++ [(name.take ends).drop scan.pieceStart]
      else scan.pieces
    sawUpper := false
    sawLower := false }

/-- A turn of the loop, at the character `char` with the index `i` -/
def step (name : List Char) (scan : Scan) (char : Char) (i : Nat) : Scan :=
  if 'A' ≤ char ∧ char ≤ 'Z' then
    let scan := if scan.sawLower then { scan.addPiece name i with pieceStart := i } else scan
    { scan with sawUpper := true }
  else if 'a' ≤ char ∧ char ≤ 'z' then
    let scan :=
      if !scan.sawLower && scan.sawUpper then
        { scan.addPiece name (i - 1) with pieceStart := i - 1 }
      else scan
    { scan with sawLower := true }
  else
    let scan := scan.addPiece name i
    { scan with
      pieces :=
        if ('0' ≤ char ∧ char ≤ '9') ∨ char = '$' then scan.pieces ++ [[char]] else scan.pieces
      pieceStart := i + 1 }

end Scan

def piecesOf (name : List Char) : List (List Char) :=
  let start : Scan := ⟨[], 0, false, false⟩
  let scan := name.zipIdx.foldl (fun scan (char, i) => scan.step name char i) start
  (scan.addPiece name name.length).pieces

def lowerPiece (piece : List Char) : List Char := piece.map Char.toLower

def upperPiece : List Char → List Char
  | [] => []
  | firstChar :: piece => firstChar.toUpper :: lowerPiece piece

/-- "100ths" does not become "100Ths". Only the first such place is replaced. -/
def replaceThs : List Char → List Char
  | digit :: t :: h :: s :: text =>
    if digit.isDigit ∧ [t, h, s].map Char.toLower = ['t', 'h', 's'] then
      digit :: 't' :: 'h' :: 's' :: text
    else digit :: replaceThs (t :: h :: s :: text)
  | text => text

end Camelize

open Camelize in
def camelize (name : String) (upperFirst : Bool) : String :=
  let pieces :=
    match piecesOf name.toList with
    | [] => []
    | first :: pieces =>
      (if upperFirst then upperPiece first else lowerPiece first) :: pieces.map upperPiece
  String.ofList (replaceThs pieces.flatten)

example : camelize "FOOBar_min100ths" false = "fooBarMin100ths" := by decide +kernel

end MatterJs
