import Mathlib.Data.Nat.Digits.Lemmas
import MatterJs.General.MatterError

/-! Node ids, and the CASE authenticated tags that some of them carry, as numbers. -/

namespace MatterJs.Types

open General

namespace CaseAuthenticatedTag

def new (id : Nat) : Except MatterError Nat :=
  if id &&& 0xffff = 0 then
    .error (.validationOutOfBoundsError "CaseAuthenticatedTag version number must not be 0." none)
  else .ok id

def getIdentifyValue (tag : Nat) : Nat := tag >>> 16

def getVersion (tag : Nat) : Nat := tag &&& 0xffff

def validateNocTagList (tags : List Nat) : Except MatterError Unit :=
  if 3 < tags.length then
    .error (.validationOutOfBoundsError s!"Too many CaseAuthenticatedTags ({tags.length})." none)
  else if (tags.map getIdentifyValue).dedup.length ≠ tags.length then
    .error (.validationOutOfBoundsError
      "CASEAuthenticatedTags field contains duplicate identifier values." none)
  else .ok ()

/-- What `TlvCaseAuthenticatedTag` accepts: 32 bits with a version other than 0. -/
def Valid (tag : Nat) : Prop := tag ≤ 0xffffffff ∧ tag &&& 0xffff ≠ 0

instance : DecidablePred Valid := fun _ => inferInstanceAs (Decidable (_ ∧ _))

end CaseAuthenticatedTag

namespace NodeId

def operationalNodeMin : Nat := 0x0000000000000001

def operationalNodeMax : Nat := 0xFFFFFFEFFFFFFFFF

def unspecifiedNodeId : Nat := 0

def isOperationalNodeId (nodeId : Nat) : Bool :=
  operationalNodeMin ≤ nodeId && nodeId ≤ operationalNodeMax

def fromCaseAuthenticatedTag (id : Nat) : Except MatterError Nat :=
  if 0xffffffff < id then
    .error (.unexpectedDataError s!"Invalid CASE Authenticated tag: {id}")
  else .ok (0xFFFFFFFD * 16 ^ 8 + id)

/-- The digits of `nodeId.toString(16)`. -/
def hexDigits (nodeId : Nat) : List Nat := (Nat.digits 16 nodeId).reverse

/-- The digits `fffffffd`. -/
def caseAuthenticatedTagPrefix : List Nat := [15, 15, 15, 15, 15, 15, 15, 13]

def isCaseAuthenticatedTag (nodeId : Nat) : Bool :=
  (hexDigits nodeId).take 8 = caseAuthenticatedTagPrefix && (hexDigits nodeId).length = 16

def extractAsCaseAuthenticatedTag (nodeId : Nat) :
    Except MatterError Nat :=
  if isCaseAuthenticatedTag nodeId then
    CaseAuthenticatedTag.new (Nat.ofDigits 16 ((hexDigits nodeId).drop 8).reverse)
  else .error (.unexpectedDataError s!"Invalid CASE Authenticated tag: {nodeId}")

/-! ## The node ids of tags -/

theorem drop_digits {base : Nat} (large : 1 < base) (count number : Nat) :
    (Nat.digits base number).drop count = Nat.digits base (number / base ^ count) := by
  induction count with
  | zero => simp
  | succ count induction =>
    rw [← List.drop_drop, induction, Nat.pow_succ, ← Nat.div_div_eq_div_mul]
    by_cases zero : number / base ^ count = 0
    · simp [zero]
    · rw [Nat.digits_eq_cons_digits_div large zero, List.drop_one, List.tail_cons]

theorem isCaseAuthenticatedTag_iff (nodeId : Nat) :
    isCaseAuthenticatedTag nodeId ↔ nodeId / 16 ^ 8 = 0xfffffffd := by
  have prefixDigits : Nat.digits 16 0xfffffffd = caseAuthenticatedTagPrefix.reverse := by
    norm_num [caseAuthenticatedTagPrefix]
  have top := @drop_digits 16 (by decide) 8 nodeId
  rw [isCaseAuthenticatedTag, hexDigits, Bool.and_eq_true, decide_eq_true_iff,
    decide_eq_true_iff, List.length_reverse]
  constructor
  · rintro ⟨isPrefix, isLength⟩
    rw [List.take_reverse, isLength, top, List.reverse_eq_iff] at isPrefix
    exact Nat.digits_inj_iff.mp isPrefix
  · intro isTop
    rw [isTop, prefixDigits] at top
    have isLength : (Nat.digits 16 nodeId).length = 16 := by
      have rest := congrArg List.length top
      rw [List.length_drop, List.length_reverse, caseAuthenticatedTagPrefix] at rest
      simp only [List.length_cons, List.length_nil] at rest
      omega
    refine ⟨?_, isLength⟩
    rw [List.take_reverse, isLength, top, List.reverse_reverse]

theorem extractAsCaseAuthenticatedTag_of_isTag {nodeId : Nat}
    (isTag : isCaseAuthenticatedTag nodeId) :
    extractAsCaseAuthenticatedTag nodeId = CaseAuthenticatedTag.new (nodeId % 16 ^ 8) := by
  have isLength : (hexDigits nodeId).length = 16 := by
    rw [isCaseAuthenticatedTag, Bool.and_eq_true, decide_eq_true_iff, decide_eq_true_iff] at isTag
    exact isTag.2
  rw [hexDigits, List.length_reverse] at isLength
  rw [extractAsCaseAuthenticatedTag, if_pos isTag,
    Nat.self_mod_pow_eq_ofDigits_take 8 nodeId (by decide), hexDigits, List.drop_reverse,
    List.reverse_reverse, isLength]

theorem isCaseAuthenticatedTag_fromCaseAuthenticatedTag {tag nodeId : Nat}
    (isNodeId : fromCaseAuthenticatedTag tag = .ok nodeId) :
    isCaseAuthenticatedTag nodeId ∧ nodeId % 16 ^ 8 = tag := by
  rw [fromCaseAuthenticatedTag] at isNodeId
  by_cases large : 0xffffffff < tag
  · rw [if_pos large] at isNodeId
    cases isNodeId
  · rw [if_neg large, Except.ok.injEq] at isNodeId
    rw [isCaseAuthenticatedTag_iff]
    omega

theorem fromCaseAuthenticatedTag_injective {tag other nodeId : Nat}
    (isTag : fromCaseAuthenticatedTag tag = .ok nodeId)
    (isOther : fromCaseAuthenticatedTag other = .ok nodeId) : tag = other :=
  (isCaseAuthenticatedTag_fromCaseAuthenticatedTag isTag).2.symm.trans
    (isCaseAuthenticatedTag_fromCaseAuthenticatedTag isOther).2

theorem extract_fromCaseAuthenticatedTag {tag nodeId : Nat} (valid : CaseAuthenticatedTag.Valid tag)
    (isNodeId : fromCaseAuthenticatedTag tag = .ok nodeId) :
    extractAsCaseAuthenticatedTag nodeId = .ok tag := by
  rcases isCaseAuthenticatedTag_fromCaseAuthenticatedTag isNodeId with ⟨isTag, low⟩
  rw [extractAsCaseAuthenticatedTag_of_isTag isTag, low, CaseAuthenticatedTag.new, if_neg valid.2]

theorem exists_fromCaseAuthenticatedTag {tag : Nat} (valid : CaseAuthenticatedTag.Valid tag) :
    ∃ nodeId, fromCaseAuthenticatedTag tag = .ok nodeId :=
  ⟨_, by rw [fromCaseAuthenticatedTag, if_neg (Nat.not_lt.mpr valid.1)]⟩

theorem not_isCaseAuthenticatedTag_of_operational {nodeId : Nat}
    (operational : isOperationalNodeId nodeId) : isCaseAuthenticatedTag nodeId = false := by
  rw [isOperationalNodeId, Bool.and_eq_true, decide_eq_true_iff, decide_eq_true_iff,
    operationalNodeMax] at operational
  rw [Bool.eq_false_iff, ne_eq, isCaseAuthenticatedTag_iff]
  omega

end NodeId

end MatterJs.Types
