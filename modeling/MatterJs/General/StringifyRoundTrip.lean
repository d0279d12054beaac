import MatterJs.General.MatterError
import MatterJs.General.SpecialStrings

/-! Which storage values are read back from their texts. -/

namespace MatterJs.General.StringifyTools

open JsonText

section Induction

variable {Holds : StorageValue → Prop} (undefined : Holds .undefined) (null : Holds .null)
  (boolean : ∀ value, Holds (.boolean value)) (number : ∀ value, Holds (.number value))
  (string : ∀ value, Holds (.string value)) (bigint : ∀ value, Holds (.bigint value))
  (bytes : ∀ value, Holds (.bytes value))
  (array : ∀ elements, (∀ element ∈ elements, Holds element) → Holds (.array elements))
  (object : ∀ members, (∀ member ∈ members, Holds member.2) → Holds (.object members))
  (map : ∀ entries, (∀ entry ∈ entries, Holds entry.1 ∧ Holds entry.2) → Holds (.map entries))

include undefined null boolean number string bigint bytes array object map in
@[elab_as_elim]
theorem StorageValue.induction (value : StorageValue) : Holds value :=
  @StorageValue.rec Holds (fun elements => ∀ element ∈ elements, Holds element)
    (fun members => ∀ member ∈ members, Holds member.2)
    (fun entries => ∀ entry ∈ entries, Holds entry.1 ∧ Holds entry.2)
    (fun member => Holds member.2) (fun entry => Holds entry.1 ∧ Holds entry.2)
    undefined null boolean number string bigint bytes array object map
    (List.forall_mem_nil _) (fun _ _ first others => List.forall_mem_cons.mpr ⟨first, others⟩)
    (List.forall_mem_nil _) (fun _ _ first others => List.forall_mem_cons.mpr ⟨first, others⟩)
    (List.forall_mem_nil _) (fun _ _ first others => List.forall_mem_cons.mpr ⟨first, others⟩)
    (fun _ _ holds => holds) (fun _ _ first second => ⟨first, second⟩) value

end Induction

mutual
/-- A value that the types allow, without `undefined`: keys are there once. -/
def Supported : StorageValue → Prop
  | .undefined => False
  | .array elements => ElementsSupported elements
  | .object members => (members.map Prod.fst).Nodup ∧ MembersSupported members
  | .map entries =>
    (entries.map Prod.fst).Pairwise (fun key other => sameValueZero key other = false) ∧
      EntriesSupported entries
  | _ => True

def ElementsSupported : List StorageValue → Prop
  | [] => True
  | element :: elements => Supported element ∧ ElementsSupported elements

def MembersSupported : List (List CodeUnit × StorageValue) → Prop
  | [] => True
  | (_, value) :: members => Supported value ∧ MembersSupported members

def EntriesSupported : List (StorageValue × StorageValue) → Prop
  | [] => True
  | (key, value) :: entries => (Supported key ∧ Supported value) ∧ EntriesSupported entries
end

mutual
/-- No string of the value begins and ends as a special one, no object looks like a `Buffer`,
and all numbers are finite. -/
def Survives : StorageValue → Prop
  | .number (.finite _) => True
  | .number _ => False
  | .string value => isSpecial value = false
  | .array elements => ElementsSurvive elements
  | .object members => bufferData members = none ∧ MembersSurvive members
  | .map entries => EntriesSurvive entries
  | _ => True

def ElementsSurvive : List StorageValue → Prop
  | [] => True
  | element :: elements => Survives element ∧ ElementsSurvive elements

def MembersSurvive : List (List CodeUnit × StorageValue) → Prop
  | [] => True
  | (_, value) :: members => Survives value ∧ MembersSurvive members

def EntriesSurvive : List (StorageValue × StorageValue) → Prop
  | [] => True
  | (key, value) :: entries => (Survives key ∧ Survives value) ∧ EntriesSurvive entries
end

theorem elementsSupported_iff {elements : List StorageValue} :
    ElementsSupported elements ↔ ∀ element ∈ elements, Supported element := by
  induction elements with
  | nil => exact iff_of_true trivial (List.forall_mem_nil _)
  | cons element elements induction => rw [ElementsSupported, induction, List.forall_mem_cons]

theorem membersSupported_iff {members : List (List CodeUnit × StorageValue)} :
    MembersSupported members ↔ ∀ member ∈ members, Supported member.2 := by
  induction members with
  | nil => exact iff_of_true trivial (List.forall_mem_nil _)
  | cons member members induction => rw [MembersSupported, induction, List.forall_mem_cons]

theorem entriesSupported_iff {entries : List (StorageValue × StorageValue)} :
    EntriesSupported entries ↔
      ∀ entry ∈ entries, Supported entry.1 ∧ Supported entry.2 := by
  induction entries with
  | nil => exact iff_of_true trivial (List.forall_mem_nil _)
  | cons entry entries induction => rw [EntriesSupported, induction, List.forall_mem_cons]

theorem elementsSurvive_iff {elements : List StorageValue} :
    ElementsSurvive elements ↔ ∀ element ∈ elements, Survives element := by
  induction elements with
  | nil => exact iff_of_true trivial (List.forall_mem_nil _)
  | cons element elements induction => rw [ElementsSurvive, induction, List.forall_mem_cons]

theorem membersSurvive_iff {members : List (List CodeUnit × StorageValue)} :
    MembersSurvive members ↔ ∀ member ∈ members, Survives member.2 := by
  induction members with
  | nil => exact iff_of_true trivial (List.forall_mem_nil _)
  | cons member members induction => rw [MembersSurvive, induction, List.forall_mem_cons]

theorem entriesSurvive_iff {entries : List (StorageValue × StorageValue)} :
    EntriesSurvive entries ↔ ∀ entry ∈ entries, Survives entry.1 ∧ Survives entry.2 := by
  induction entries with
  | nil => exact iff_of_true trivial (List.forall_mem_nil _)
  | cons entry entries induction => rw [EntriesSurvive, induction, List.forall_mem_cons]

/-! ## What is written has its keys once -/

section HasOwnKeys

variable {conversions : NumberConversions}

theorem keys_of_replaceMembers {members : List (List CodeUnit × StorageValue)}
    {replaced : List (List CodeUnit × JsonValue)}
    (replaces : replaceMembers conversions members = .ok replaced) :
    replaced.map Prod.fst = members.map Prod.fst := by
  induction members generalizing replaced with
  | nil =>
    cases replaces
    rfl
  | cons member members induction =>
    rcases bind_eq_ok_iff.mp replaces with ⟨first, _, rest⟩
    rcases bind_eq_ok_iff.mp rest with ⟨others, replacesOthers, isReplaced⟩
    cases isReplaced
    rw [List.map_cons, List.map_cons, induction replacesOthers]

theorem elementsHaveOwnKeys_of_replace {elements : List StorageValue}
    (haveOwnKeys : ∀ element ∈ elements, Supported element → ∀ {replaced : JsonValue},
      replace conversions element = .ok replaced → HasOwnKeys replaced)
    (supported : ElementsSupported elements) {replaced : List JsonValue}
    (replaces : replaceElements conversions elements = .ok replaced) :
    ElementsHaveOwnKeys replaced := by
  induction elements generalizing replaced with
  | nil =>
    cases replaces
    trivial
  | cons element elements induction =>
    rw [List.forall_mem_cons] at haveOwnKeys
    rcases bind_eq_ok_iff.mp replaces with ⟨first, replacesFirst, rest⟩
    rcases bind_eq_ok_iff.mp rest with ⟨others, replacesOthers, isReplaced⟩
    cases isReplaced
    exact ⟨haveOwnKeys.1 supported.1 replacesFirst,
      induction haveOwnKeys.2 supported.2 replacesOthers⟩

theorem membersHaveOwnKeys_of_replace {members : List (List CodeUnit × StorageValue)}
    (haveOwnKeys : ∀ member ∈ members, Supported member.2 → ∀ {replaced : JsonValue},
      replace conversions member.2 = .ok replaced → HasOwnKeys replaced)
    (supported : MembersSupported members) {replaced : List (List CodeUnit × JsonValue)}
    (replaces : replaceMembers conversions members = .ok replaced) :
    MembersHaveOwnKeys replaced := by
  induction members generalizing replaced with
  | nil =>
    cases replaces
    trivial
  | cons member members induction =>
    rw [List.forall_mem_cons] at haveOwnKeys
    rcases bind_eq_ok_iff.mp replaces with ⟨first, replacesFirst, rest⟩
    rcases bind_eq_ok_iff.mp rest with ⟨others, replacesOthers, isReplaced⟩
    cases isReplaced
    exact ⟨haveOwnKeys.1 supported.1 replacesFirst,
      induction haveOwnKeys.2 supported.2 replacesOthers⟩

theorem hasOwnKeys_of_replace (value : StorageValue) (supported : Supported value)
    {replaced : JsonValue} (replaces : replace conversions value = .ok replaced) :
    HasOwnKeys replaced := by
  induction value using StorageValue.induction generalizing replaced with
  | undefined => cases supported
  | null | boolean | string | bigint | bytes =>
    cases replaces
    trivial
  | number value => cases value <;> (cases replaces; trivial)
  | array elements induction =>
    rcases bind_eq_ok_iff.mp replaces with ⟨others, replacesOthers, isReplaced⟩
    cases isReplaced
    exact elementsHaveOwnKeys_of_replace induction supported replacesOthers
  | object members induction =>
    rw [replace] at replaces
    split at replaces
    · rcases bind_eq_ok_iff.mp replaces with ⟨bytes, _, isReplaced⟩
      cases isReplaced
      trivial
    · rcases bind_eq_ok_iff.mp replaces with ⟨others, replacesOthers, isReplaced⟩
      cases isReplaced
      refine ⟨?_, membersHaveOwnKeys_of_replace induction supported.2 replacesOthers⟩
      rw [keys_of_replaceMembers replacesOthers]
      exact supported.1
  | map entries _ =>
    rcases bind_eq_ok_iff.mp replaces with ⟨others, _, isReplaced⟩
    cases isReplaced
    trivial

theorem entriesHaveOwnKeys_of_replace {entries : List (StorageValue × StorageValue)}
    (supported : EntriesSupported entries) {replaced : List JsonValue}
    (replaces : replaceEntries conversions entries = .ok replaced) :
    ElementsHaveOwnKeys replaced := by
  induction entries generalizing replaced with
  | nil =>
    cases replaces
    trivial
  | cons entry entries induction =>
    rcases entry with ⟨key, value⟩
    rcases bind_eq_ok_iff.mp replaces with ⟨firstKey, replacesKey, rest⟩
    rcases bind_eq_ok_iff.mp rest with ⟨firstValue, replacesValue, rest⟩
    rcases bind_eq_ok_iff.mp rest with ⟨others, replacesOthers, isReplaced⟩
    cases isReplaced
    have ownKey := hasOwnKeys_of_replace key supported.1.1 replacesKey
    have ownValue := hasOwnKeys_of_replace value supported.1.2 replacesValue
    exact ⟨⟨ownKey, ownValue, trivial⟩, induction supported.2 replacesOthers⟩

end HasOwnKeys

/-! ## No part has a longer text than the whole -/

section Lengths

variable {gap : List CodeUnit} {depth : Nat}

theorem length_le_escape (string : List CodeUnit) : string.length ≤ (escape string).length := by
  have escapes (unit : CodeUnit) : 1 ≤ (escapeUnit unit).length := by
    rw [escapeUnit]
    split
    · exact Nat.le_succ 1
    · split_ifs
      · rw [unicodeEscape]
        simp
      · exact Nat.le_refl 1
  fun_induction escape string with
  | case1 => exact Nat.le_refl 0
  | case2 unit => exact escapes unit
  | case3 unit next rest _ induction =>
    simp only [List.length_cons]
    omega
  | case4 unit next rest _ induction =>
    have first := escapes unit
    rw [List.length_append, List.length_cons]
    omega

theorem length_lt_stringify_string (string : List CodeUnit) :
    string.length < (stringify gap depth (.string string)).length := by
  have inside := length_le_escape string
  rw [stringify, quote, List.length_cons, List.length_append]
  omega

theorem length_le_stringifyElements {element : JsonValue} {elements : List JsonValue}
    (member : element ∈ elements) :
    (stringify gap depth element).length ≤ (stringifyElements gap depth elements).length := by
  induction elements with
  | nil => cases member
  | cons first elements induction =>
    rw [stringifyElements]
    simp only [List.length_cons, List.length_append]
    rcases List.mem_cons.mp member with rfl | later
    · omega
    · have inOthers := induction later
      omega

theorem length_le_stringify_array {element : JsonValue} {elements : List JsonValue}
    (member : element ∈ elements) :
    (stringify gap (depth + 1) element).length ≤
      (stringify gap depth (.array elements)).length := by
  cases elements with
  | nil => cases member
  | cons first elements =>
    rw [stringify]
    simp only [List.length_cons, List.length_append]
    rcases List.mem_cons.mp member with rfl | later
    · omega
    · have inOthers : (stringify gap (depth + 1) element).length ≤ _ :=
        length_le_stringifyElements later
      omega

theorem length_le_stringifyMembers {member : List CodeUnit × JsonValue}
    {members : List (List CodeUnit × JsonValue)} (isMember : member ∈ members) :
    (stringify gap depth member.2).length ≤ (stringifyMembers gap depth members).length := by
  induction members with
  | nil => cases isMember
  | cons first members induction =>
    rcases first with ⟨key, value⟩
    have inText := @length_lt_memberText gap depth key (stringify gap depth value)
    rw [stringifyMembers]
    simp only [List.length_cons, List.length_append]
    rcases List.mem_cons.mp isMember with rfl | later
    · dsimp only
      omega
    · have inOthers := induction later
      omega

theorem length_le_stringify_object {member : List CodeUnit × JsonValue}
    {members : List (List CodeUnit × JsonValue)} (isMember : member ∈ members) :
    (stringify gap (depth + 1) member.2).length ≤
      (stringify gap depth (.object members)).length := by
  cases members with
  | nil => cases isMember
  | cons first members =>
    rcases first with ⟨key, value⟩
    have inText := @length_lt_memberText gap (depth + 1) key (stringify gap (depth + 1) value)
    rw [stringify]
    simp only [List.length_cons, List.length_append]
    rcases List.mem_cons.mp isMember with rfl | later
    · dsimp only
      omega
    · have inOthers : (stringify gap (depth + 1) member.2).length ≤ _ :=
        length_le_stringifyMembers later
      omega

theorem length_lt_special (type : String) (value : List CodeUnit) :
    value.length < (special type (quote value)).length := by
  have inside := length_le_escape value
  simp only [special, quote, List.length_cons, List.length_append]
  omega

end Lengths

/-! ## Maps from their entries -/

theorem mapSet_of_new {key : StorageValue} {entries : List (StorageValue × StorageValue)}
    (isNew : ∀ entry ∈ entries, sameValueZero entry.1 key = false) (value : StorageValue) :
    mapSet key value entries = entries ++ [(key, value)] := by
  induction entries with
  | nil => rfl
  | cons entry entries induction =>
    rw [List.forall_mem_cons] at isNew
    rw [mapSet, isNew.1, induction isNew.2]
    rfl

theorem mapSet_cases (key value : StorageValue) (entries : List (StorageValue × StorageValue)) :
    (mapSet key value entries).length = entries.length ∨
      mapSet key value entries = entries ++ [(key, value)] := by
  induction entries with
  | nil => exact .inr rfl
  | cons entry entries induction =>
    rw [mapSet]
    split_ifs
    · exact .inl rfl
    · rcases induction with sameLength | added
      · exact .inl (congrArg Nat.succ sameLength)
      · exact .inr (congrArg (entry :: ·) added)

def setAll (entries collected : List (StorageValue × StorageValue)) :
    List (StorageValue × StorageValue) :=
  entries.foldl (fun map (key, value) => mapSet key value map) collected

theorem setAll_of_distinct {entries collected : List (StorageValue × StorageValue)}
    (distinct : ((collected ++ entries).map Prod.fst).Pairwise fun key other =>
      sameValueZero key other = false) : setAll entries collected = collected ++ entries := by
  induction entries generalizing collected with
  | nil => exact (List.append_nil _).symm
  | cons entry entries induction =>
    rcases entry with ⟨key, value⟩
    have isNew : ∀ entry ∈ collected, sameValueZero entry.1 key = false := by
      intro entry member
      rw [List.map_append, List.pairwise_append] at distinct
      exact distinct.2.2 entry.1 (List.mem_map_of_mem member) key List.mem_cons_self
    show setAll entries (mapSet key value collected) = _
    rw [mapSet_of_new isNew, induction (by simpa using distinct), List.append_assoc]
    rfl

theorem setAll_spec (entries collected : List (StorageValue × StorageValue)) :
    (setAll entries collected).length ≤ collected.length + entries.length ∧
      ((setAll entries collected).length = collected.length + entries.length →
        setAll entries collected = collected ++ entries) := by
  induction entries generalizing collected with
  | nil => exact ⟨Nat.le_refl _, fun _ => (List.append_nil _).symm⟩
  | cons entry entries induction =>
    rcases entry with ⟨key, value⟩
    rcases induction (mapSet key value collected) with ⟨atMost, asMany⟩
    show (setAll entries (mapSet key value collected)).length ≤ _ ∧ _
    rw [List.length_cons]
    rcases mapSet_cases key value collected with sameLength | added
    · rw [sameLength] at atMost
      refine ⟨by omega, fun same => ?_⟩
      have isSame : (setAll entries (mapSet key value collected)).length = _ := same
      omega
    · rw [added, List.length_append, List.length_singleton] at atMost asMany
      rw [added]
      refine ⟨by omega, fun same => ?_⟩
      have isSame : setAll ((key, value) :: entries) collected =
          setAll entries (collected ++ [(key, value)]) := by
        rw [← added]
        rfl
      rw [isSame] at same ⊢
      rw [asMany (by omega), List.append_assoc]
      rfl

def entryArrays (entries : List (StorageValue × StorageValue)) : List StorageValue :=
  entries.map fun entry => .array [entry.1, entry.2]

theorem newMap_entryArrays (entries : List (StorageValue × StorageValue)) :
    newMap (.array (entryArrays entries)) = .ok (.map (setAll entries [])) := by
  have isEntries : (entryArrays entries).mapM mapEntry = .ok entries := by
    induction entries with
    | nil => rfl
    | cons entry entries induction =>
      show ((_ :: entryArrays entries).mapM mapEntry) = _
      rw [List.mapM_cons, induction]
      rfl
  rw [newMap, isEntries]
  rfl

/-! ## What survives is read back -/

section ReadsBack

variable (conversions : NumberConversions)

/-- What is written is revived to the value, with fuel for as long a text as is written. -/
def ReadsBack (value : StorageValue) : Prop :=
  ∃ replaced, replace conversions value = .ok replaced ∧
    ∀ gap depth fuel, (stringify gap depth replaced).length ≤ fuel →
      revive conversions (fromJsonWithin conversions fuel) replaced = .ok value

variable {conversions}

theorem elements_readBack {elements : List StorageValue}
    (readBack : ∀ element ∈ elements, ReadsBack conversions element) :
    ∃ replaced, replaceElements conversions elements = .ok replaced ∧
      ∀ gap depth fuel, (∀ element ∈ replaced, (stringify gap depth element).length ≤ fuel) →
        reviveElements conversions (fromJsonWithin conversions fuel) replaced = .ok elements := by
  induction elements with
  | nil => exact ⟨[], rfl, fun _ _ _ _ => rfl⟩
  | cons element elements induction =>
    rw [List.forall_mem_cons] at readBack
    rcases readBack.1 with ⟨first, replacesFirst, revivesFirst⟩
    rcases induction readBack.2 with ⟨others, replacesOthers, revivesOthers⟩
    refine ⟨first :: others, ?_, fun gap depth fuel enough => ?_⟩
    · rw [replaceElements, replacesFirst, replacesOthers]
      rfl
    · rw [List.forall_mem_cons] at enough
      rw [reviveElements, revivesFirst gap depth fuel enough.1,
        revivesOthers gap depth fuel enough.2]
      rfl

theorem members_readBack {members : List (List CodeUnit × StorageValue)}
    (supported : MembersSupported members)
    (readBack : ∀ member ∈ members, ReadsBack conversions member.2) :
    ∃ replaced, replaceMembers conversions members = .ok replaced ∧
      ∀ gap depth fuel, (∀ member ∈ replaced, (stringify gap depth member.2).length ≤ fuel) →
        reviveMembers conversions (fromJsonWithin conversions fuel) replaced = .ok members := by
  induction members with
  | nil => exact ⟨[], rfl, fun _ _ _ _ => rfl⟩
  | cons member members induction =>
    rcases member with ⟨key, value⟩
    rw [List.forall_mem_cons] at readBack
    rcases readBack.1 with ⟨first, replacesFirst, revivesFirst⟩
    rcases induction supported.2 readBack.2 with ⟨others, replacesOthers, revivesOthers⟩
    refine ⟨(key, first) :: others, ?_, fun gap depth fuel enough => ?_⟩
    · rw [replaceMembers, replacesFirst, replacesOthers]
      rfl
    · rw [List.forall_mem_cons] at enough
      rw [reviveMembers, revivesFirst gap depth fuel enough.1,
        revivesOthers gap depth fuel enough.2]
      cases value with
      | undefined => exact supported.1.elim
      | _ => rfl

theorem entries_readBack {entries : List (StorageValue × StorageValue)}
    (readBack : ∀ entry ∈ entries, ReadsBack conversions entry.1 ∧ ReadsBack conversions entry.2) :
    ∃ replaced, replaceEntries conversions entries = .ok replaced ∧
      ∀ gap depth fuel, (∀ entry ∈ replaced, (stringify gap depth entry).length ≤ fuel) →
        reviveElements conversions (fromJsonWithin conversions fuel) replaced =
          .ok (entryArrays entries) := by
  induction entries with
  | nil => exact ⟨[], rfl, fun _ _ _ _ => rfl⟩
  | cons entry entries induction =>
    rw [List.forall_mem_cons] at readBack
    rcases readBack with ⟨⟨readsKey, readsValue⟩, readBack⟩
    rcases readsKey with ⟨firstKey, replacesKey, revivesKey⟩
    rcases readsValue with ⟨firstValue, replacesValue, revivesValue⟩
    rcases induction readBack with ⟨others, replacesOthers, revivesOthers⟩
    refine ⟨.array [firstKey, firstValue] :: others, ?_, fun gap depth fuel enough => ?_⟩
    · rw [replaceEntries, replacesKey, replacesValue, replacesOthers]
      rfl
    · rw [List.forall_mem_cons] at enough
      have enoughKey : (stringify gap (depth + 1) firstKey).length ≤ fuel :=
        Nat.le_trans (length_le_stringify_array List.mem_cons_self) enough.1
      have enoughValue : (stringify gap (depth + 1) firstValue).length ≤ fuel :=
        Nat.le_trans (length_le_stringify_array (by simp)) enough.1
      rw [reviveElements, revive, reviveElements, reviveElements,
        revivesKey gap (depth + 1) fuel enoughKey, revivesValue gap (depth + 1) fuel enoughValue,
        revivesOthers gap depth fuel enough.2]
      rfl

theorem readsBack_of_revived {value : StorageValue} {replaced : JsonValue}
    (replaces : replace conversions value = .ok replaced)
    (revives : ∀ nested, revive conversions nested replaced = .ok value) :
    ReadsBack conversions value :=
  ⟨replaced, replaces, fun _ _ _ _ => revives _⟩

theorem readsBack_string {value : List CodeUnit} (survives : isSpecial value = false) :
    ReadsBack conversions (.string value) := by
  apply readsBack_of_revived rfl
  intro nested
  rw [revive, reviveString, survives]
  rfl

theorem readsBack_bigint (value : Int) : ReadsBack conversions (.bigint value) := by
  have replaces : replace conversions (.bigint value) =
      .ok (.string (special "BigInt" (quoted (units (bigintText value))))) := by rw [replace]
  apply readsBack_of_revived replaces
  intro nested
  rw [revive]
  exact reviveString_bigint value

theorem readsBack_bytes (value : List UInt8) : ReadsBack conversions (.bytes value) := by
  have replaces : replace conversions (.bytes value) =
      .ok (.string (special "Uint8Array" (quoted (toHex value)))) := by rw [replace]
  apply readsBack_of_revived replaces
  intro nested
  rw [revive]
  exact reviveString_bytes value

theorem readsBack_array {elements : List StorageValue}
    (readBack : ∀ element ∈ elements, ReadsBack conversions element) :
    ReadsBack conversions (.array elements) := by
  rcases elements_readBack readBack with ⟨replaced, replaces, revives⟩
  refine ⟨.array replaced, ?_, fun gap depth fuel enough => ?_⟩
  · rw [replace, replaces]
    rfl
  · have enoughAll : ∀ element ∈ replaced, (stringify gap (depth + 1) element).length ≤ fuel :=
      fun element member => Nat.le_trans (length_le_stringify_array member) enough
    rw [revive, revives gap (depth + 1) fuel enoughAll]
    rfl

theorem readsBack_object {members : List (List CodeUnit × StorageValue)}
    (noBuffer : bufferData members = none) (supported : MembersSupported members)
    (readBack : ∀ member ∈ members, ReadsBack conversions member.2) :
    ReadsBack conversions (.object members) := by
  rcases members_readBack supported readBack with ⟨replaced, replaces, revives⟩
  refine ⟨.object replaced, ?_, fun gap depth fuel enough => ?_⟩
  · rw [replace, noBuffer, replaces]
    rfl
  · have enoughAll : ∀ member ∈ replaced, (stringify gap (depth + 1) member.2).length ≤ fuel :=
      fun member isMember => Nat.le_trans (length_le_stringify_object isMember) enough
    rw [revive, revives gap (depth + 1) fuel enoughAll]
    rfl

theorem readsBack_map {entries : List (StorageValue × StorageValue)}
    (distinct : (entries.map Prod.fst).Pairwise fun key other => sameValueZero key other = false)
    (ownKeys : ∀ {replaced}, replaceEntries conversions entries = .ok replaced →
      ElementsHaveOwnKeys replaced)
    (readBack : ∀ entry ∈ entries, ReadsBack conversions entry.1 ∧ ReadsBack conversions entry.2) :
    ReadsBack conversions (.map entries) := by
  rcases entries_readBack readBack with ⟨replaced, replaces, revives⟩
  refine ⟨.string (special "Map" (quote (stringify [] 0 (.array replaced)))), ?_,
    fun gap depth fuel enough => ?_⟩
  · rw [replace, replaces]
    rfl
  · have inSpecial := length_lt_special "Map" (stringify [] 0 (.array replaced))
    have inString := @length_lt_stringify_string gap depth
      (special "Map" (quote (stringify [] 0 (.array replaced))))
    cases fuel with
    | zero => omega
    | succ fuel =>
      have parses : parse (stringify [] 0 (.array replaced)) = some (.array replaced) :=
        parse_stringify (List.forall_mem_nil _) (ownKeys replaces)
      have enoughAll : ∀ entry ∈ replaced, (stringify [] 1 entry).length ≤ fuel := by
        intro entry member
        have inArray : (stringify [] 1 entry).length ≤ _ := length_le_stringify_array member
        omega
      have nested : fromJsonWithin conversions (fuel + 1) (stringify [] 0 (.array replaced)) =
          .ok (.array (entryArrays entries)) := by
        rw [fromJsonWithin, parses]
        dsimp only
        rw [revive, revives [] 1 fuel enoughAll]
        rfl
      have same : setAll entries [] = entries := setAll_of_distinct distinct
      rw [revive, reviveString_map, nested]
      show newMap (.array (entryArrays entries)) = _
      rw [newMap_entryArrays, same]

theorem readsBack_of_survives (value : StorageValue) (supported : Supported value)
    (survives : Survives value) : ReadsBack conversions value := by
  induction value using StorageValue.induction with
  | undefined => cases supported
  | null => exact readsBack_of_revived rfl fun _ => rfl
  | boolean => exact readsBack_of_revived rfl fun _ => rfl
  | number value =>
    cases value with
    | finite => exact readsBack_of_revived rfl fun _ => rfl
    | _ => cases survives
  | string => exact readsBack_string survives
  | bigint => exact readsBack_bigint _
  | bytes => exact readsBack_bytes _
  | array elements induction =>
    apply readsBack_array
    intro element member
    exact induction element member (elementsSupported_iff.mp supported element member)
      (elementsSurvive_iff.mp survives element member)
  | object members induction =>
    apply readsBack_object survives.1 supported.2
    intro member isMember
    exact induction member isMember (membersSupported_iff.mp supported.2 member isMember)
      (membersSurvive_iff.mp survives.2 member isMember)
  | map entries induction =>
    apply readsBack_map supported.1 (entriesHaveOwnKeys_of_replace supported.2)
    intro entry member
    rcases entriesSupported_iff.mp supported.2 entry member with ⟨supportedKey, supportedValue⟩
    rcases entriesSurvive_iff.mp survives entry member with ⟨keySurvives, valueSurvives⟩
    rcases induction entry member with ⟨readsKey, readsValue⟩
    exact ⟨readsKey supportedKey keySurvives, readsValue supportedValue valueSurvives⟩

end ReadsBack

/-! ## What is read back survives -/

section Survives

variable {conversions : NumberConversions}
  {nested : List CodeUnit → Except StringifyError StorageValue}

theorem newMap_ne_string {value : StorageValue} (string : List CodeUnit) :
    newMap value ≠ .ok (.string string) := by
  intro isString
  cases value with
  | array elements =>
    rcases bind_eq_ok_iff.mp isString with ⟨entries, _, isMap⟩
    cases isMap
  | string value =>
    rw [newMap] at isString
    split_ifs at isString
    cases isString
  | bytes value =>
    rw [newMap] at isString
    split_ifs at isString
    cases isString
  | _ => cases isString

theorem reviveSpecial_eq_string {object value : Option JsonValue} {string : List CodeUnit}
    (revives : reviveSpecial conversions nested object value = .ok (.string string)) :
    value = some (.string string) := by
  have unknown {object : Option JsonValue}
      (isString : unknownType object = .ok (.string string)) : value = some (.string string) := by
    rcases bind_eq_ok_iff.mp isString with ⟨_, _, fails⟩
    cases fails
  have converted {α : Type} {result : Except StringifyError α} {convert : α → StorageValue}
      (isString : result.map convert = .ok (.string string))
      (noString : ∀ converted, convert converted ≠ .string string) :
      value = some (.string string) := by
    cases result with
    | error => cases isString
    | ok converted => exact absurd (Except.ok.inj isString) (noString converted)
  rw [reviveSpecial.eq_def] at revives
  split at revives
  · split_ifs at revives
    · cases revives
    · exact converted revives fun _ => nofun
    · exact converted revives fun _ => nofun
    · rcases bind_eq_ok_iff.mp revives with ⟨json, _, rest⟩
      rcases bind_eq_ok_iff.mp rest with ⟨entries, _, isMap⟩
      exact absurd isMap (newMap_ne_string string)
    · cases value with
      | none => cases revives
      | some value =>
        cases value with
        | string value =>
          cases revives
          rfl
        | _ => cases revives
    · exact converted revives fun _ => nofun
    · exact unknown revives
  · exact unknown revives

theorem reviveString_ne_self {value : List CodeUnit} (special : isSpecial value = true) :
    reviveString conversions nested value ≠ .ok (.string value) := by
  intro revives
  rw [reviveString, if_pos special] at revives
  split at revives
  · cases revives
  · rename_i data parses
    have found := OrderedMap.mem_of_lookup (reviveSpecial_eq_string revives)
    exact Nat.lt_irrefl _ (shorterThan_of_parse parses _ found value rfl)
  · cases reviveSpecial_eq_string revives

variable {replaced : List JsonValue} {members : List (List CodeUnit × StorageValue)}

theorem elementsSurvive_of_revive {elements : List StorageValue}
    (survives : ∀ element ∈ elements, Supported element →
      ∀ {replaced : JsonValue}, replace conversions element = .ok replaced →
      revive conversions nested replaced = .ok element → Survives element)
    (supported : ElementsSupported elements)
    (replaces : replaceElements conversions elements = .ok replaced)
    (revives : reviveElements conversions nested replaced = .ok elements) :
    ElementsSurvive elements := by
  induction elements generalizing replaced with
  | nil => trivial
  | cons element elements induction =>
    rw [List.forall_mem_cons] at survives
    rcases bind_eq_ok_iff.mp replaces with ⟨first, replacesFirst, rest⟩
    rcases bind_eq_ok_iff.mp rest with ⟨others, replacesOthers, isReplaced⟩
    cases isReplaced
    rcases bind_eq_ok_iff.mp revives with ⟨revived, revivesFirst, rest⟩
    rcases bind_eq_ok_iff.mp rest with ⟨revivedOthers, revivesOthers, isRevived⟩
    cases isRevived
    exact ⟨survives.1 supported.1 replacesFirst revivesFirst,
      induction survives.2 supported.2 replacesOthers revivesOthers⟩

theorem length_of_replaceMembers {replaced : List (List CodeUnit × JsonValue)}
    (replaces : replaceMembers conversions members = .ok replaced) :
    replaced.length = members.length := by
  have sameKeys := congrArg List.length (keys_of_replaceMembers replaces)
  rwa [List.length_map, List.length_map] at sameKeys

theorem length_of_reviveMembers {replaced : List (List CodeUnit × JsonValue)}
    (revives : reviveMembers conversions nested replaced = .ok members) :
    members.length ≤ replaced.length := by
  induction replaced generalizing members with
  | nil =>
    cases revives
    exact Nat.le_refl _
  | cons member replaced induction =>
    rcases bind_eq_ok_iff.mp revives with ⟨revived, _, rest⟩
    rcases bind_eq_ok_iff.mp rest with ⟨others, revivesOthers, isRevived⟩
    have fewer := induction revivesOthers
    cases isRevived
    split
    · exact Nat.le_succ_of_le fewer
    · exact Nat.succ_le_succ fewer

theorem membersSurvive_of_revive (survives : ∀ member ∈ members, Supported member.2 →
      ∀ {replaced : JsonValue}, replace conversions member.2 = .ok replaced →
      revive conversions nested replaced = .ok member.2 → Survives member.2)
    (supported : MembersSupported members) {replaced : List (List CodeUnit × JsonValue)}
    (replaces : replaceMembers conversions members = .ok replaced)
    (revives : reviveMembers conversions nested replaced = .ok members) :
    MembersSurvive members := by
  induction members generalizing replaced with
  | nil => trivial
  | cons member members induction =>
    rcases member with ⟨key, value⟩
    rw [List.forall_mem_cons] at survives
    rcases bind_eq_ok_iff.mp replaces with ⟨first, replacesFirst, rest⟩
    rcases bind_eq_ok_iff.mp rest with ⟨others, replacesOthers, isReplaced⟩
    cases isReplaced
    rcases bind_eq_ok_iff.mp revives with ⟨revived, revivesFirst, rest⟩
    rcases bind_eq_ok_iff.mp rest with ⟨revivedOthers, revivesOthers, isRevived⟩
    have isRevived := Except.ok.inj isRevived
    split at isRevived
    · have fewer := length_of_reviveMembers revivesOthers
      rw [isRevived, length_of_replaceMembers replacesOthers] at fewer
      exact absurd fewer (Nat.not_succ_le_self _)
    · rcases List.cons.inj isRevived with ⟨sameFirst, sameOthers⟩
      cases sameFirst
      cases sameOthers
      exact ⟨survives.1 supported.1 replacesFirst revivesFirst,
        induction survives.2 supported.2 replacesOthers revivesOthers⟩

theorem exists_of_revivePair {key value : JsonValue} {revived : StorageValue}
    (revives : revive conversions nested (.array [key, value]) = .ok revived) :
    ∃ revivedKey revivedValue, revive conversions nested key = .ok revivedKey ∧
      revive conversions nested value = .ok revivedValue ∧
      revived = .array [revivedKey, revivedValue] := by
  rcases bind_eq_ok_iff.mp revives with ⟨pair, revivesPair, isPair⟩
  cases isPair
  rcases bind_eq_ok_iff.mp revivesPair with ⟨revivedKey, revivesKey, rest⟩
  rcases bind_eq_ok_iff.mp rest with ⟨single, revivesSingle, isPair⟩
  cases isPair
  rcases bind_eq_ok_iff.mp revivesSingle with ⟨revivedValue, revivesValue, rest⟩
  cases rest
  exact ⟨revivedKey, revivedValue, revivesKey, revivesValue, rfl⟩

theorem exists_of_reviveEntries {entries : List (StorageValue × StorageValue)}
    {revived : List StorageValue} (replaces : replaceEntries conversions entries = .ok replaced)
    (revives : reviveElements conversions nested replaced = .ok revived) :
    ∃ pairs, revived = entryArrays pairs ∧ pairs.length = entries.length := by
  induction entries generalizing replaced revived with
  | nil =>
    cases replaces
    cases revives
    exact ⟨[], rfl, rfl⟩
  | cons entry entries induction =>
    rcases bind_eq_ok_iff.mp replaces with ⟨firstKey, _, rest⟩
    rcases bind_eq_ok_iff.mp rest with ⟨firstValue, _, rest⟩
    rcases bind_eq_ok_iff.mp rest with ⟨others, replacesOthers, isReplaced⟩
    cases isReplaced
    rcases bind_eq_ok_iff.mp revives with ⟨revivedFirst, revivesFirst, rest⟩
    rcases bind_eq_ok_iff.mp rest with ⟨revivedOthers, revivesOthers, isRevived⟩
    cases isRevived
    rcases exists_of_revivePair revivesFirst with ⟨revivedKey, revivedValue, _, _, rfl⟩
    rcases induction replacesOthers revivesOthers with ⟨pairs, rfl, sameLength⟩
    exact ⟨(revivedKey, revivedValue) :: pairs, rfl, congrArg Nat.succ sameLength⟩

theorem entriesSurvive_of_revive {entries : List (StorageValue × StorageValue)}
    (survives : ∀ entry ∈ entries,
      (Supported entry.1 → ∀ {replaced : JsonValue}, replace conversions entry.1 = .ok replaced →
        revive conversions nested replaced = .ok entry.1 → Survives entry.1) ∧
      (Supported entry.2 → ∀ {replaced : JsonValue}, replace conversions entry.2 = .ok replaced →
        revive conversions nested replaced = .ok entry.2 → Survives entry.2))
    (supported : EntriesSupported entries)
    (replaces : replaceEntries conversions entries = .ok replaced)
    (revives : reviveElements conversions nested replaced = .ok (entryArrays entries)) :
    EntriesSurvive entries := by
  induction entries generalizing replaced with
  | nil => trivial
  | cons entry entries induction =>
    rw [List.forall_mem_cons] at survives
    rcases bind_eq_ok_iff.mp replaces with ⟨firstKey, replacesKey, rest⟩
    rcases bind_eq_ok_iff.mp rest with ⟨firstValue, replacesValue, rest⟩
    rcases bind_eq_ok_iff.mp rest with ⟨others, replacesOthers, isReplaced⟩
    cases isReplaced
    rcases bind_eq_ok_iff.mp revives with ⟨revivedFirst, revivesFirst, rest⟩
    rcases bind_eq_ok_iff.mp rest with ⟨revivedOthers, revivesOthers, isRevived⟩
    cases isRevived
    rcases exists_of_revivePair revivesFirst with
      ⟨revivedKey, revivedValue, revivesKey, revivesValue, isPair⟩
    cases isPair
    exact ⟨⟨survives.1.1 supported.1.1 replacesKey revivesKey,
      survives.1.2 supported.1.2 replacesValue revivesValue⟩,
      induction survives.2 supported.2 replacesOthers revivesOthers⟩

theorem survives_of_revive (value : StorageValue) (supported : Supported value) {fuel : Nat}
    {replaced : JsonValue} (replaces : replace conversions value = .ok replaced)
    (revives : revive conversions (fromJsonWithin conversions fuel) replaced = .ok value) :
    Survives value := by
  induction value using StorageValue.induction generalizing replaced fuel with
  | undefined => cases supported
  | null | boolean | bigint | bytes => trivial
  | number value =>
    cases value with
    | finite => trivial
    | _ =>
      cases replaces
      cases revives
  | string value =>
    cases replaces
    by_contra special
    exact reviveString_ne_self (Bool.not_eq_false _ ▸ special) revives
  | array elements induction =>
    rcases bind_eq_ok_iff.mp replaces with ⟨others, replacesOthers, isReplaced⟩
    cases isReplaced
    rcases bind_eq_ok_iff.mp revives with ⟨revived, revivesOthers, isRevived⟩
    cases isRevived
    exact elementsSurvive_of_revive
      (fun element member supported _ replaces revives =>
        induction element member supported replaces revives)
      supported replacesOthers revivesOthers
  | object members induction =>
    rw [replace] at replaces
    split at replaces
    · rcases bind_eq_ok_iff.mp replaces with ⟨bytes, _, isReplaced⟩
      cases isReplaced
      rw [revive, reviveString_bytes] at revives
      cases revives
    · rename_i noBuffer
      rcases bind_eq_ok_iff.mp replaces with ⟨others, replacesOthers, isReplaced⟩
      cases isReplaced
      rcases bind_eq_ok_iff.mp revives with ⟨revived, revivesOthers, isRevived⟩
      cases isRevived
      refine ⟨noBuffer, membersSurvive_of_revive ?_ supported.2 replacesOthers revivesOthers⟩
      exact fun member isMember supported _ replaces revives =>
        induction member isMember supported replaces revives
  | map entries induction =>
    rcases bind_eq_ok_iff.mp replaces with ⟨others, replacesOthers, isReplaced⟩
    cases isReplaced
    rw [revive, reviveString_map] at revives
    rcases bind_eq_ok_iff.mp revives with ⟨array, readsNested, isMap⟩
    cases fuel with
    | zero => cases readsNested
    | succ fuel =>
      have ownKeys := entriesHaveOwnKeys_of_replace supported.2 replacesOthers
      have parses : parse (stringify [] 0 (.array others)) = some (.array others) :=
        parse_stringify (List.forall_mem_nil _) ownKeys
      rw [fromJsonWithin, parses] at readsNested
      rcases bind_eq_ok_iff.mp readsNested with ⟨revived, revivesOthers, isArray⟩
      cases isArray
      rcases exists_of_reviveEntries replacesOthers revivesOthers with
        ⟨pairs, rfl, sameLength⟩
      rw [newMap_entryArrays] at isMap
      have isEntries : setAll pairs [] = entries := by
        cases isMap
        rfl
      have allThere : setAll pairs [] = pairs := by
        apply (setAll_spec pairs []).2
        rw [isEntries, List.length_nil, sameLength, Nat.zero_add]
      have samePairs : pairs = entries := allThere.symm.trans isEntries
      rw [samePairs] at revivesOthers
      refine entriesSurvive_of_revive ?_ supported.2 replacesOthers revivesOthers
      intro entry member
      rcases induction entry member with ⟨keySurvives, valueSurvives⟩
      exact ⟨fun supported _ replaces revives => keySurvives supported replaces revives,
        fun supported _ replaces revives => valueSurvives supported replaces revives⟩

end Survives

/-! ## The round trip -/

section RoundTrip

variable {conversions : NumberConversions} {spaces : Option Nat} {value : StorageValue}
  (supported : Supported value)

include supported in
theorem fromJson_stringify {replaced : JsonValue}
    (replaces : replace conversions value = .ok replaced) :
    fromJson conversions (stringify (gapOf spaces) 0 replaced) =
      revive conversions (fromJsonWithin conversions
        (stringify (gapOf spaces) 0 replaced).length) replaced := by
  have gapIsSpace : ∀ unit ∈ gapOf spaces, JsonText.isWhiteSpace unit = true := by
    intro unit member
    rw [List.eq_of_mem_replicate member]
    rfl
  have parses := parse_stringify gapIsSpace (hasOwnKeys_of_replace value supported replaces)
  rw [fromJson, fromJsonWithin, parses]

include supported in
theorem survives_of_fromJson_toJson {json : List CodeUnit}
    (writes : toJson conversions spaces value = .ok json)
    (reads : fromJson conversions json = .ok value) : Survives value := by
  rcases bind_eq_ok_iff.mp writes with ⟨replaced, replaces, isJson⟩
  cases isJson
  rw [fromJson_stringify supported replaces] at reads
  exact survives_of_revive value supported replaces reads

include supported in
theorem fromJson_toJson_of_survives (survives : Survives value) :
    ∃ json, toJson conversions spaces value = .ok json ∧
      fromJson conversions json = .ok value := by
  rcases readsBack_of_survives value supported survives with ⟨replaced, replaces, revives⟩
  refine ⟨stringify (gapOf spaces) 0 replaced, ?_, ?_⟩
  · rw [toJson, replaces]
    rfl
  · rw [fromJson_stringify supported replaces]
    exact revives (gapOf spaces) 0 _ (Nat.le_refl _)

end RoundTrip

/-- A supported value is read back from its text, with any number of spaces, exactly when it
survives. -/
theorem fromJson_toJson_iff (conversions : NumberConversions) (spaces : Option Nat)
    (value : StorageValue) (supported : Supported value) :
    (∃ json, toJson conversions spaces value = .ok json ∧
      fromJson conversions json = .ok value) ↔ Survives value := by
  constructor
  · intro readBack
    rcases readBack with ⟨json, writes, reads⟩
    exact survives_of_fromJson_toJson supported writes reads
  · exact fromJson_toJson_of_survives supported

def wholeConversions : NumberConversions where
  uint8From elements := .ok (elements.map fun
    | .number (.finite value) => (value.mantissa * 10 ^ value.exponent.toNat).toUInt8
    | _ => 0)
  isOdd
    | .number value => .ok (value.mantissa * 10 ^ value.exponent.toNat % 2 = 1)
    | _ => .ok false

/-- An object with a big integer, bytes and a string with quotation marks. -/
def fabricEntry : StorageValue :=
  .object
    [(text "fabricId", .bigint 1),
      (text "operationalId", .bytes [0x01, 0xff]),
      (text "labels", .array [.string (text "\"a\""), .null])]

theorem fabricEntry_readBack :
    ∃ json, toJson wholeConversions none fabricEntry = .ok json ∧
      fromJson wholeConversions json = .ok fabricEntry := by
  refine (fromJson_toJson_iff wholeConversions none fabricEntry ?_).mpr ?_
  · exact ⟨by decide, trivial, trivial, ⟨trivial, trivial, trivial⟩, trivial⟩
  · have notSpecial : isSpecial (text "\"a\"") = false := by decide
    exact ⟨rfl, trivial, trivial, ⟨notSpecial, trivial, trivial⟩, trivial⟩

/-- A string that looks like a special one is read as another value. -/
theorem specialUndefined_lost :
    Supported (.string specialUndefined) ∧
      (∃ json, toJson wholeConversions none (.string specialUndefined) = .ok json ∧
        fromJson wholeConversions json = .ok .undefined) ∧
      ¬∃ json, toJson wholeConversions none (.string specialUndefined) = .ok json ∧
        fromJson wholeConversions json = .ok (.string specialUndefined) := by
  have supported : Supported (.string specialUndefined) := trivial
  have replaces : replace wholeConversions (.string specialUndefined) =
      .ok (.string specialUndefined) := by rw [replace]
  refine ⟨supported, ⟨stringify (gapOf none) 0 (.string specialUndefined), ?_, ?_⟩, ?_⟩
  · rw [toJson]
    rfl
  · rw [fromJson_stringify supported replaces, revive, reviveString_undefined]
  · intro readBack
    rcases readBack with ⟨json, writes, reads⟩
    have survives : isSpecial specialUndefined = false :=
      survives_of_fromJson_toJson supported writes reads
    exact absurd survives (by decide)

end MatterJs.General.StringifyTools
