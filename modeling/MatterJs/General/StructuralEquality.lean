import MatterJs.General.DeepEqual

/-! Structural equality of plain data, and the values for which `isDeepEqual` decides it. -/

namespace MatterJs.General

open OrderedMap

namespace Data

def keys (data : Data) : List String := data.ownProperties.map Prod.fst

def IsObject (data : Data) : Prop := data.isNullish = false ∧ data.typeOf = .object

/-- Equal primitive values, and objects with the same keys whose values are equal -/
inductive Same : Data → Data → Prop where
  | primitive {value other : Data} (noObject : ¬value.IsObject)
      (equal : value.strictEquals other = true) : Same value other
  | object {value other : Data} (isObject : value.IsObject) (otherIsObject : other.IsObject)
      (sameKeys : ∀ name, name ∈ value.keys ↔ name ∈ other.keys)
      (sameValues : ∀ name first second, value.ownProperties.lookup name = some first →
        other.ownProperties.lookup name = some second → Same first second) : Same value other

/-- The values inside of one -/
inductive Within : Data → Data → Prop where
  | itself (data : Data) : Within data data
  | property {part data : Data} {entry : String × Data} (member : entry ∈ data.ownProperties)
      (inside : Within part entry.2) : Within part data

/-- No two properties of an object have the same name. -/
def Distinct (data : Data) : Prop :=
  ∀ part, Within part data → part.keys.Nodup

def NoUndefinedProperties (data : Data) : Prop :=
  ∀ part, Within part data → ∀ entry ∈ part.ownProperties, entry.2 ≠ undefined

def nan : Data := scalar (.number .nan)

end Data

def PlainData : Type := { data : Data // data.Distinct }

namespace Data

variable {value other third part : Data} {entry : String × Data} {name : String}

theorem Distinct.nodup (distinct : value.Distinct) : value.keys.Nodup :=
  distinct value (.itself value)

theorem Distinct.property (distinct : value.Distinct) (member : entry ∈ value.ownProperties) :
    entry.2.Distinct :=
  fun part inside => distinct part (.property member inside)

theorem NoUndefinedProperties.property (defined : value.NoUndefinedProperties)
    (member : entry ∈ value.ownProperties) : entry.2.NoUndefinedProperties :=
  fun part inside => defined part (.property member inside)

theorem mem_keys (member : entry ∈ value.ownProperties) : entry.1 ∈ value.keys :=
  List.mem_map_of_mem member

theorem mem_indexed {index : Nat} {elements : List (Option Data)}
    (member : entry ∈ indexed index elements) : some entry.2 ∈ elements := by
  induction elements generalizing index with
  | nil => cases member
  | cons element elements induction =>
    cases element with
    | none => exact List.mem_cons_of_mem _ (induction member)
    | some data =>
      rcases List.mem_cons.mp member with rfl | later
      · exact List.mem_cons_self
      · exact List.mem_cons_of_mem _ (induction later)

theorem mem_byteElements {content : List UInt8} {element : Option Data}
    (member : element ∈ byteElements content) : ∃ number, element = some (count number) := by
  rcases List.mem_map.mp member with ⟨byte, _, rfl⟩
  exact ⟨byte.toNat, rfl⟩

theorem ofProperties {Holds : Data → Prop}
    (step : ∀ data, (∀ entry ∈ data.ownProperties, Holds entry.2) → Holds data)
    (data : Data) : Holds data := by
  have atCount (number : Nat) : Holds (count number) := step _ (List.forall_mem_nil _)
  match data with
  | scalar content =>
    refine step _ fun entry member => ?_
    cases content with
    | bytes content =>
      rcases mem_byteElements (mem_indexed member) with ⟨number, isCount⟩
      rw [Option.some.inj isCount]
      exact atCount number
    | undefined => cases member
    | null => cases member
    | boolean content => cases member
    | number content => cases member
    | string content => cases member
    | bigint content => cases member
  | struct properties =>
    refine step _ fun entry member => ?_
    have smaller : sizeOf entry < sizeOf properties := List.sizeOf_lt_of_mem member
    have part : sizeOf entry = 1 + sizeOf entry.1 + sizeOf entry.2 := rfl
    exact ofProperties step entry.2
  | list elements =>
    refine step _ fun entry member => ?_
    rcases List.mem_append.mp member with inside | isLength
    · have smaller : 1 + sizeOf entry.2 < sizeOf elements :=
        List.sizeOf_lt_of_mem (mem_indexed inside)
      exact ofProperties step entry.2
    · rw [List.mem_singleton.mp isLength]
      exact atCount elements.length
termination_by sizeOf data
decreasing_by all_goals simp_wf; omega

/-! ## One comparison -/

/-- What the comparison finds of two properties -/
def Agrees (value other : Data) : Prop :=
  value.typeOf = other.typeOf ∧ isDeepEqual false value other = true

theorem isDeepEqual_of_noObject (noObject : ¬(value.IsObject ∧ other.IsObject)) :
    isDeepEqual false value other = value.strictEquals other := by
  have byType (nullish : value.isNullish = false) (isObject : value.typeOf = .object)
      (otherNullish : other.isNullish = false) : other.typeOf ≠ .object :=
    fun otherIsObject => noObject ⟨⟨nullish, isObject⟩, otherNullish, otherIsObject⟩
  cases value with
  | scalar content =>
    rw [isDeepEqual, if_pos]
    by_contra compared
    simp only [Bool.or_eq_true, decide_eq_true_eq, not_or, not_not, Bool.not_eq_true] at compared
    exact byType compared.1.1.1 compared.2 compared.1.1.2 (compared.1.2 ▸ compared.2)
  | struct properties =>
    cases nullish : other.isNullish with
    | true => simp [isDeepEqual, nullish, strictEquals]
    | false => simp [isDeepEqual, byType rfl rfl nullish, strictEquals]
  | list elements =>
    cases nullish : other.isNullish with
    | true => simp [isDeepEqual, nullish, strictEquals]
    | false => simp [isDeepEqual, byType rfl rfl nullish, strictEquals]

theorem eq_of_strictEquals (equal : value.strictEquals other = true) : value = other := by
  cases value with
  | scalar content =>
    cases other with
    | scalar otherContent =>
      simp only [strictEquals, Scalar.strictEquals, Bool.and_eq_true, decide_eq_true_eq] at equal
      rw [equal.2]
    | struct properties => cases equal
    | list elements => cases equal
  | struct properties => cases equal
  | list elements => cases equal

theorem agrees_iff_strictEquals (noObject : value.typeOf ≠ .object) :
    value.Agrees other ↔ value.strictEquals other = true := by
  rw [Agrees, isDeepEqual_of_noObject fun both => noObject both.1.2]
  refine ⟨And.right, fun equal => ⟨?_, equal⟩⟩
  rw [eq_of_strictEquals equal]

theorem numbersEqual_iff {properties : List (String × Data)}
    (numbers : ∀ entry ∈ properties, entry.2.typeOf ≠ .object) :
    numbersEqual properties other = true ↔
      ∀ entry ∈ properties, entry.2.Agrees (other.property entry.1) := by
  rw [numbersEqual, List.all_eq_true]
  exact forall₂_congr fun entry member => (agrees_iff_strictEquals (numbers entry member)).symm

theorem propertiesDeepEqual_iff {properties : List (String × Data)} :
    propertiesDeepEqual properties other = true ↔
      ∀ entry ∈ properties, entry.2.Agrees (other.property entry.1) := by
  induction properties with
  | nil => simp [propertiesDeepEqual]
  | cons entry properties induction =>
    rw [propertiesDeepEqual, Bool.and_eq_true, induction, List.forall_mem_cons]
    refine and_congr_left fun _ => ?_
    by_cases sameType : entry.2.typeOf = (other.property entry.1).typeOf
    · rw [if_neg (not_not_intro sameType)]
      by_cases isObject : entry.2.typeOf = .object
      · rw [if_pos isObject, Agrees, and_iff_right sameType]
      · rw [if_neg isObject, agrees_iff_strictEquals isObject]
    · rw [if_pos sameType, Agrees, iff_false_intro sameType]
      simp

theorem isDeepEqual_iff (isObject : value.IsObject) (otherIsObject : other.IsObject) :
    isDeepEqual false value other = true ↔
      value.ownProperties.length = other.ownProperties.length ∧
        ∀ entry ∈ value.ownProperties, entry.2.Agrees (other.property entry.1) := by
  have compared : ¬(other.isNullish = true ∨ other.typeOf ≠ .object) := by
    simp [otherIsObject.1, otherIsObject.2]
  cases value with
  | scalar content =>
    have isBytes := isObject.1
    have isType := isObject.2
    have numbers : ∀ entry ∈ (scalar content).ownProperties, entry.2.typeOf ≠ .object := by
      intro entry member
      cases content with
      | bytes content =>
        rcases mem_byteElements (mem_indexed member) with ⟨number, isCount⟩
        rw [Option.some.inj isCount]
        nofun
      | undefined => cases member
      | null => cases member
      | boolean content => cases member
      | number content => cases member
      | string content => cases member
      | bigint content => cases member
    rw [isDeepEqual, if_neg, Bool.and_eq_true, numbersEqual_iff numbers]
    · simp
    · simp only [isNullish, typeOf] at isBytes isType
      simp [isBytes, isType, otherIsObject.1, otherIsObject.2]
  | struct properties =>
    rw [isDeepEqual, if_neg (by simpa using compared), Bool.and_eq_true,
      propertiesDeepEqual_iff, Bool.or_false, decide_eq_true_eq]
    rfl
  | list elements =>
    have isLength : ∀ entry ∈ [("length", count elements.length)], entry.2.typeOf ≠ .object := by
      intro entry member
      rw [List.mem_singleton.mp member]
      nofun
    rw [isDeepEqual, if_neg (by simpa using compared), Bool.and_eq_true, Bool.and_eq_true,
      elementsDeepEqual_eq, propertiesDeepEqual_iff, numbersEqual_iff isLength,
      ← List.forall_mem_append]
    simp [ownProperties]

/-! ## Equal values -/

theorem isObject_of_member (member : entry ∈ value.ownProperties) : value.IsObject := by
  cases value with
  | scalar content =>
    cases content with
    | bytes content => exact ⟨rfl, rfl⟩
    | undefined => cases member
    | null => cases member
    | boolean content => cases member
    | number content => cases member
    | string content => cases member
    | bigint content => cases member
  | struct properties => exact ⟨rfl, rfl⟩
  | list elements => exact ⟨rfl, rfl⟩

theorem property_of_lookup (found : other.ownProperties.lookup name = some third) :
    other.property name = third := by
  rw [property, found, Option.getD_some]

theorem eq_undefined_of_typeOf (isUndefined : value.typeOf = .undefined) : value = undefined := by
  cases value with
  | scalar content =>
    cases content with
    | undefined => rfl
    | null => cases isUndefined
    | boolean content => cases isUndefined
    | number content => cases isUndefined
    | string content => cases isUndefined
    | bigint content => cases isUndefined
    | bytes content => cases isUndefined
  | struct properties => cases isUndefined
  | list elements => cases isUndefined

theorem Same.refl (noNan : ¬Within nan value) (distinct : value.Distinct) : Same value value := by
  induction value using ofProperties with
  | step data induction =>
    by_cases isObject : data.IsObject
    · refine .object isObject isObject (fun _ => Iff.rfl) ?_
      intro name first second found foundToo
      cases found.symm.trans foundToo
      have member := mem_of_lookup found
      exact induction _ member (fun inside => noNan (.property member inside))
        (distinct.property member)
    · refine .primitive isObject ?_
      cases data with
      | scalar content =>
        have isNumber : content ≠ .number .nan := by
          rintro rfl
          exact noNan (.itself _)
        simp [strictEquals, Scalar.strictEquals, isNumber]
      | struct properties => exact absurd ⟨rfl, rfl⟩ isObject
      | list elements => exact absurd ⟨rfl, rfl⟩ isObject

theorem Same.typeOf_eq (same : Same value other) : value.typeOf = other.typeOf := by
  cases same with
  | primitive noObject equal => rw [eq_of_strictEquals equal]
  | object isObject otherIsObject sameKeys sameValues =>
    rw [isObject.2, otherIsObject.2]

theorem Same.symm (same : Same value other) : Same other value := by
  induction same with
  | primitive noObject equal =>
    have isEqual := eq_of_strictEquals equal
    subst isEqual
    exact .primitive noObject equal
  | object isObject otherIsObject sameKeys sameValues induction =>
    exact .object otherIsObject isObject (fun name => (sameKeys name).symm)
      fun name first second isFirst isSecond => induction name second first isSecond isFirst

theorem Same.trans (same : Same value other) (sameToo : Same other third) : Same value third := by
  induction same generalizing third with
  | primitive noObject equal =>
    have isEqual := eq_of_strictEquals equal
    subst isEqual
    exact sameToo
  | object isObject otherIsObject sameKeys sameValues induction =>
    cases sameToo with
    | primitive noObject equal => exact absurd otherIsObject noObject
    | object _ thirdIsObject otherKeys otherValues =>
      refine .object isObject thirdIsObject (fun name => (sameKeys name).trans (otherKeys name)) ?_
      intro name first third isFirst isThird
      rcases mem_map_fst_iff.mp
        ((sameKeys name).mp (mem_map_fst_iff.mpr ⟨first, isFirst⟩)) with ⟨second, isSecond⟩
      exact induction name first second isFirst isSecond
        (otherValues name second third isSecond isThird)

theorem isDeepEqual_of_same (same : Same value other) (distinct : value.Distinct)
    (otherDistinct : other.Distinct) : isDeepEqual false value other = true := by
  induction same with
  | primitive noObject equal => rwa [isDeepEqual_of_noObject fun both => noObject both.1]
  | @object value other isObject otherIsObject sameKeys sameValues induction =>
    refine (isDeepEqual_iff isObject otherIsObject).mpr ⟨?_, ?_⟩
    · have permuted :=
        (List.perm_ext_iff_of_nodup distinct.nodup otherDistinct.nodup).mpr sameKeys
      simpa [keys] using permuted.length_eq
    · intro entry member
      have found := lookup_of_mem distinct.nodup member
      rcases mem_map_fst_iff.mp ((sameKeys entry.1).mp (mem_keys member)) with
        ⟨second, foundToo⟩
      rw [property_of_lookup foundToo]
      exact ⟨(sameValues _ _ _ found foundToo).typeOf_eq, induction _ _ _ found foundToo
        (distinct.property member) (otherDistinct.property (mem_of_lookup foundToo))⟩

theorem same_of_isDeepEqual (defined : value.NoUndefinedProperties) (distinct : value.Distinct)
    (otherDistinct : other.Distinct) (equal : isDeepEqual false value other = true) :
    Same value other := by
  induction value using ofProperties generalizing other with
  | step value induction =>
    by_cases objects : value.IsObject ∧ other.IsObject
    · have compared := (isDeepEqual_iff objects.1 objects.2).mp equal
      have found (entry : String × Data) (member : entry ∈ value.ownProperties) :
          ∃ second, other.ownProperties.lookup entry.1 = some second := by
        cases lookup : other.ownProperties.lookup entry.1 with
        | some second => exact ⟨second, rfl⟩
        | none =>
          have agrees := compared.2 entry member
          rw [property, lookup] at agrees
          exact absurd (eq_undefined_of_typeOf agrees.1)
            (defined value (.itself value) entry member)
      have subset : value.keys ⊆ other.keys := by
        intro name isKey
        rcases List.mem_map.mp isKey with ⟨entry, member, rfl⟩
        exact mem_map_fst_iff.mpr (found entry member)
      have permuted : value.keys.Perm other.keys :=
        (List.subperm_of_subset distinct.nodup subset).perm_of_length_le (by
          simp [keys, compared.1])
      refine .object objects.1 objects.2 (fun name => permuted.mem_iff) ?_
      intro name first second isFirst isSecond
      have member := mem_of_lookup isFirst
      have agrees := compared.2 _ member
      rw [property_of_lookup isSecond] at agrees
      exact induction _ member (defined.property member) (distinct.property member)
        (otherDistinct.property (mem_of_lookup isSecond)) agrees.2
    · rw [isDeepEqual_of_noObject objects] at equal
      refine .primitive (fun isObject => objects ⟨isObject, ?_⟩) equal
      rwa [← eq_of_strictEquals equal]

theorem not_isDeepEqual_of_nan (inside : Within nan value) :
    isDeepEqual false value other = false := by
  induction inside generalizing other with
  | itself =>
    rw [isDeepEqual_of_noObject fun both => by cases both.1.2]
    cases other with
    | scalar content => rfl
    | struct properties => rfl
    | list elements => rfl
  | @property data entry member inside induction =>
    rw [Bool.eq_false_iff]
    intro equal
    have isObject := isObject_of_member member
    by_cases otherIsObject : other.IsObject
    · have agrees := ((isDeepEqual_iff isObject otherIsObject).mp equal).2 entry member
      exact absurd agrees.2 (Bool.eq_false_iff.mp induction)
    · rw [isDeepEqual_of_noObject fun both => otherIsObject both.2] at equal
      exact otherIsObject (eq_of_strictEquals equal ▸ isObject)

/-! ## Undefined properties -/

section Replaced

variable {before after : List (String × Data)} {content replacement : Data} {newName : String}

theorem agrees_replaced (distinct : value.Distinct) (noNan : ¬Within nan value)
    (isOwn : value.ownProperties = before ++ (name, content) :: after)
    (new : newName = name ∨ newName ∉ value.keys) (replacementDistinct : replacement.Distinct)
    (agrees : content.Agrees ((struct (before ++ (newName, replacement) :: after)).property name)) :
    (struct (before ++ (newName, replacement) :: after)).Distinct ∧
      value.Agrees (struct (before ++ (newName, replacement) :: after)) := by
  have isKeys : value.keys = before.map Prod.fst ++ name :: after.map Prod.fst := by
    simp [keys, isOwn]
  have others := distinct.nodup
  rw [isKeys, List.nodup_middle, List.nodup_cons] at others
  have keysDistinct : (struct (before ++ (newName, replacement) :: after)).keys.Nodup := by
    have notOther : newName ∉ before.map Prod.fst ++ after.map Prod.fst := by
      rcases new with rfl | isNew
      · exact others.1
      · rw [isKeys] at isNew
        simp only [List.mem_append, List.mem_cons, not_or] at isNew ⊢
        exact ⟨isNew.1, isNew.2.2⟩
    have nodup := List.nodup_cons.mpr ⟨notOther, others.2⟩
    rw [← List.nodup_middle] at nodup
    simpa [keys, ownProperties] using nodup
  have isObject : value.IsObject :=
    isObject_of_member (isOwn ▸ List.mem_append_right _ List.mem_cons_self)
  constructor
  · intro part inside
    cases inside with
    | itself => exact keysDistinct
    | @property _ entry member inside =>
      rcases List.mem_append.mp member with earlier | later
      · exact distinct.property (by simp [isOwn, earlier]) part inside
      · rcases List.mem_cons.mp later with rfl | later
        · exact replacementDistinct part inside
        · exact distinct.property (by simp [isOwn, later]) part inside
  · have sameCount : value.ownProperties.length =
        (struct (before ++ (newName, replacement) :: after)).ownProperties.length := by
      rw [isOwn, List.length_append, ownProperties, List.length_append]
      rfl
    refine ⟨isObject.2, (isDeepEqual_iff isObject ⟨rfl, rfl⟩).mpr ⟨sameCount, ?_⟩⟩
    intro entry member
    have unchanged (inside : entry ∈ before ++ (newName, replacement) :: after) :
        entry.2.Agrees ((struct (before ++ (newName, replacement) :: after)).property entry.1) := by
      rw [property_of_lookup (lookup_of_mem keysDistinct inside)]
      have reflexive := Same.refl (fun inside => noNan (.property member inside))
        (distinct.property member)
      exact ⟨rfl, isDeepEqual_of_same reflexive (distinct.property member)
        (distinct.property member)⟩
    rw [isOwn] at member
    rcases List.mem_append.mp member with earlier | later
    · exact unchanged (List.mem_append_left _ earlier)
    · rcases List.mem_cons.mp later with rfl | later
      · exact agrees
      · exact unchanged (List.mem_append_right _ (List.mem_cons_of_mem _ later))

end Replaced

theorem distinct_null : (scalar .null).Distinct := by
  intro part inside
  cases inside with
  | itself => exact List.nodup_nil
  | property member => cases member

theorem exists_agrees_not_same (inside : Within part value) (member : entry ∈ part.ownProperties)
    (isUndefined : entry.2 = undefined) (distinct : value.Distinct)
    (noNan : ¬Within nan value) :
    ∃ other : Data, other.Distinct ∧ value.Agrees other ∧ ¬Same value other := by
  induction inside with
  | itself =>
    rcases entry with ⟨name, content⟩
    rcases List.append_of_mem member with ⟨before, after, isOwn⟩
    rcases Infinite.exists_notMem_finset part.keys.toFinset with ⟨newName, isNew⟩
    rw [List.mem_toFinset] at isNew
    let other := struct (before ++ (newName, scalar .null) :: after)
    have missing : name ∉ other.keys := by
      have others := distinct.nodup
      rw [keys, isOwn, List.map_append, List.map_cons, List.nodup_middle, List.nodup_cons] at others
      have different : name ≠ newName := by
        rintro rfl
        exact isNew (mem_keys member)
      simpa [other, keys, ownProperties, different] using others.1
    have isMissing : other.property name = undefined := by
      rw [property, lookup_of_new missing, Option.getD_none]
    have agrees : Agrees content (other.property name) := by
      rw [isMissing, show content = undefined from isUndefined]
      exact ⟨rfl, rfl⟩
    rcases agrees_replaced distinct noNan isOwn (.inr isNew) distinct_null agrees with
      ⟨otherDistinct, agreesToo⟩
    refine ⟨other, otherDistinct, agreesToo, ?_⟩
    intro same
    cases same with
    | primitive noObject => exact noObject (isObject_of_member member)
    | object _ _ sameKeys => exact missing ((sameKeys name).mp (mem_keys member))
  | @property value outer outerMember inside induction =>
    rcases outer with ⟨name, content⟩
    rcases induction (distinct.property outerMember)
      (fun isNan => noNan (.property outerMember isNan)) with
      ⟨replacement, replacementDistinct, agrees, notSame⟩
    rcases List.append_of_mem outerMember with ⟨before, after, isOwn⟩
    let other := struct (before ++ (name, replacement) :: after)
    have found : other.keys.Nodup → other.ownProperties.lookup name = some replacement :=
      fun nodup => lookup_of_mem nodup (List.mem_append_right _ List.mem_cons_self)
    have nodup : other.keys.Nodup := by
      have isKeys := distinct.nodup
      rw [keys, isOwn] at isKeys
      simpa [other, keys, ownProperties] using isKeys
    have agreesHere : content.Agrees (other.property name) := by
      rw [property_of_lookup (found nodup)]
      exact agrees
    rcases agrees_replaced distinct noNan isOwn (.inl rfl) replacementDistinct agreesHere with
      ⟨otherDistinct, agreesToo⟩
    refine ⟨other, otherDistinct, agreesToo, ?_⟩
    intro same
    cases same with
    | primitive noObject => exact noObject (isObject_of_member outerMember)
    | object _ _ _ sameValues =>
      exact notSame (sameValues name content replacement
        (lookup_of_mem distinct.nodup outerMember) (found nodup))

end Data

def withUndefinedProperty : Data :=
  .struct [("x", .undefined), ("y", .scalar (.boolean true))]

def withoutProperty : Data :=
  .struct [("y", .scalar (.boolean true)), ("z", .scalar (.boolean false))]

end MatterJs.General
