import Mathlib.Tactic.NormNum
import MatterJs.Types.TlvAny

/-! The bytes of one TLV element, and what reading them back gives. -/

namespace MatterJs.Types

open General ByteOrder Consumption
open DataReader (reading taking source reads_readUInt rejects_readUInt)

namespace TlvCodec

theorem readUInt_eq (length : TlvLength) :
    readUInt length = reading (DataReader.readUInt · (getUIntByteLength length)) := by
  cases length <;> rfl

theorem readInt_eq (length : TlvLength) :
    readInt length = (do
      let value ← reading (DataReader.readUInt · (getUIntByteLength length))
      return toSigned (getUIntByteLength length) value) := by
  cases length <;> rfl

theorem getUIntByteLength_pos (length : TlvLength) : 0 < getUIntByteLength length := by
  cases length <;> decide

theorem truncate_of_integer {value : Rat} (integer : value.den = 1) :
    truncate value = value.num := by
  rw [truncate, integer]
  exact Int.tdiv_one _

theorem writeUInt_of_integer (writer : DataWriter) (length : TlvLength) {value : Rat}
    (integer : value.den = 1) :
    writeUInt writer length value =
      .ok (writer.writeUInt (getUIntByteLength length) value.num) := by
  have kept := truncate_of_integer integer
  cases length with
  | oneByte => rw [writeUInt, kept]; rfl
  | twoBytes => rw [writeUInt, kept]; rfl
  | fourBytes => rw [writeUInt, kept]; rfl
  | eightBytes => rw [writeUInt, toBigInt, if_pos integer]; rfl

theorem writeUInt_of_size (writer : DataWriter) (length : TlvLength) (size : Nat) :
    writeUInt writer length size = .ok (writer.writeUInt (getUIntByteLength length) size) := by
  rw [writeUInt_of_integer writer length (Rat.den_natCast size)]
  rfl

end TlvCodec

open TlvCodec

/-- The tag forms that are written: an identifier of one byte, or a profile with an
identifier of up to four bytes. -/
def TlvTag.WellFormed (tag : TlvTag) : Prop :=
  match tag.profile, tag.id with
  | none, some id => id < 2 ^ 8
  | some profile, some id => profile < 2 ^ 32 ∧ id < 2 ^ 32
  | _, none => False

/-- The form that is written but that the reader does not know. -/
def TlvTag.IsFullyQualified64 (tag : TlvTag) : Prop :=
  match tag.profile, tag.id with
  | some profile, some id => profile ≠ MATTER_COMMON_PROFILE ∧ 2 ^ 16 ≤ id
  | _, _ => False

instance (tag : TlvTag) : Decidable tag.WellFormed := by
  rw [TlvTag.WellFormed]
  split <;> infer_instance

instance (tag : TlvTag) : Decidable tag.IsFullyQualified64 := by
  rw [TlvTag.IsFullyQualified64]
  split <;> infer_instance

def tagFields (tag : Option TlvTag) : TagControl × Bytes :=
  match tag with
  | none => (.anonymous, [])
  | some { profile := none, id } => (.contextSpecific, encode .little 1 (id.getD 0))
  | some { profile := some profile, id } =>
    let id := id.getD 0
    if profile = MATTER_COMMON_PROFILE then
      if id < 2 ^ 16 then (.commonProfile16, encode .little 2 id)
      else (.commonProfile32, encode .little 4 id)
    else
      if id < 2 ^ 16 then
        (.fullyQualified48, encode .little 4 profile ++ encode .little 2 id)
      else
        (.fullyQualified64, encode .little 4 profile ++ encode .little 4 id)

def tagBytes (typeLength : TlvTypeLength) (tag : Option TlvTag) : Bytes :=
  encode .little 1 (ControlByteSchema.encode (tagFields tag).1 (typeLengthCode typeLength)) ++
    (tagFields tag).2

/-- The codes below the reserved ones. -/
def TlvTypeLength.Known : TlvTypeLength → Prop
  | .reserved _ => False
  | _ => True

theorem typeLengthCode_lt {typeLength : TlvTypeLength} (known : typeLength.Known) :
    typeLengthCode typeLength < 32 := by
  cases typeLength with
  | reserved code => exact known.elim
  | signedInt length => cases length <;> decide
  | unsignedInt length => cases length <;> decide
  | boolean value => cases value <;> decide
  | float length => cases length <;> decide
  | utf8String length => cases length <;> decide
  | byteString length => cases length <;> decide
  | null => decide
  | struct => decide
  | array => decide
  | list => decide
  | endOfContainer => decide

theorem parseTypeLength_typeLengthCode {typeLength : TlvTypeLength}
    (known : typeLength.Known) : parseTypeLength (typeLengthCode typeLength) = typeLength := by
  cases typeLength with
  | reserved code => exact known.elim
  | signedInt length => cases length <;> rfl
  | unsignedInt length => cases length <;> rfl
  | boolean value => cases value <;> rfl
  | float length => cases length <;> rfl
  | utf8String length => cases length <;> rfl
  | byteString length => cases length <;> rfl
  | null => rfl
  | struct => rfl
  | array => rfl
  | list => rfl
  | endOfContainer => rfl

theorem controlByte_decode_encode (tagControl : TagControl) {code : Nat} (fits : code < 32) :
    ControlByteSchema.decode (ControlByteSchema.encode tagControl code) =
      (tagControl, code) := by
  revert code
  cases tagControl <;> decide

theorem controlByte_encode_lt (tagControl : TagControl) {code : Nat} (fits : code < 32) :
    ControlByteSchema.encode tagControl code < 256 ^ 1 := by
  revert code
  cases tagControl <;> decide

/-! ## Reading a tag -/

theorem reads_readTag {tag : Option TlvTag} (wellFormed : ∀ present ∈ tag, present.WellFormed)
    (readable : ∀ present ∈ tag, ¬present.IsFullyQualified64) :
    Reads (source .little) (readTag (tagFields tag).1) (tagFields tag).2 tag := by
  match tag with
  | none => exact Reads.pure none
  | some { profile := none, id := some id } =>
    exact (reads_readUInt (wellFormed _ rfl)).map _
  | some { profile := some profile, id := none } => exact (wellFormed _ rfl).elim
  | some { profile := some profile, id := some id } =>
    rcases wellFormed _ rfl with ⟨profileFits, idFits⟩
    by_cases common : profile = MATTER_COMMON_PROFILE
    · subst common
      by_cases short : id < 2 ^ 16
      · simp only [tagFields, Option.getD_some, short]
        exact (reads_readUInt short).map _
      · simp only [tagFields, Option.getD_some, if_neg short]
        exact (reads_readUInt idFits).map _
    · have short : id < 2 ^ 16 := by
        by_contra long
        exact readable _ rfl ⟨common, Nat.le_of_not_lt long⟩
      simp only [tagFields, Option.getD_some, if_neg common, if_pos short]
      exact (reads_readUInt profileFits).bind ((reads_readUInt short).map _)

theorem rejects_readTag {tag : Option TlvTag} (wellFormed : ∀ present ∈ tag, present.WellFormed) :
    Rejects (source .little) (readTag (tagFields tag).1) (tagFields tag).2 := by
  have oneRead (width value : Nat) {make : Nat → Option TlvTag} :
      Rejects (source .little)
        (reading (DataReader.readUInt · width) >>= fun id => pure (make id))
        (encode .little width value) :=
    (rejects_readUInt (encode_length _ _ _)).andThen
  match tag with
  | none => exact Rejects.nothing
  | some { profile := none, id } => exact oneRead 1 (id.getD 0)
  | some { profile := some profile, id := none } => exact (wellFormed _ rfl).elim
  | some { profile := some profile, id := some id } =>
    rcases wellFormed _ rfl with ⟨profileFits, idFits⟩
    simp only [tagFields]
    split
    · split
      · exact oneRead 2 id
      · exact oneRead 4 id
    · split
      · exact (rejects_readUInt (encode_length _ _ _)).bind (reads_readUInt profileFits)
          (oneRead 2 id)
      · exact Rejects.throw _

theorem fails_readTag {tag : TlvTag} (long : tag.IsFullyQualified64) (items : Bytes) :
    Fails (source .little) (readTag (tagFields (some tag)).1) items := by
  match tag with
  | { profile := some profile, id := some id } =>
    have control : (tagFields (some { profile := some profile, id := some id })).1 =
        .fullyQualified64 := by
      simp only [tagFields, Option.getD_some, if_neg long.1, if_neg (Nat.not_lt.mpr long.2)]
    rw [control]
    exact Fails.throw _

section TagType

variable {typeLength : TlvTypeLength} {tag : Option TlvTag}

theorem reads_readTagType (known : typeLength.Known)
    (wellFormed : ∀ present ∈ tag, present.WellFormed)
    (readable : ∀ present ∈ tag, ¬present.IsFullyQualified64) :
    Reads (source .little) readTagType (tagBytes typeLength tag) (tag, typeLength) := by
  have fits := typeLengthCode_lt known
  apply Reads.bind (reads_readUInt (controlByte_encode_lt _ fits))
  rw [controlByte_decode_encode _ fits]
  have parsed : (tag, typeLength) = (tag, parseTypeLength (typeLengthCode typeLength)) := by
    rw [parseTypeLength_typeLengthCode known]
  rw [parsed]
  exact (reads_readTag wellFormed readable).map _

theorem rejects_readTagType (known : typeLength.Known)
    (wellFormed : ∀ present ∈ tag, present.WellFormed) :
    Rejects (source .little) readTagType (tagBytes typeLength tag) := by
  have fits := typeLengthCode_lt known
  apply Rejects.bind (rejects_readUInt (encode_length _ _ _))
    (reads_readUInt (controlByte_encode_lt _ fits))
  rw [controlByte_decode_encode _ fits]
  exact (rejects_readTag wellFormed).andThen

theorem fails_readTagType (known : typeLength.Known) {tag : TlvTag}
    (long : tag.IsFullyQualified64) :
    Fails (source .little) readTagType (tagBytes typeLength (some tag)) := by
  have fits := typeLengthCode_lt known
  apply Reads.bind_fails (reads_readUInt (controlByte_encode_lt _ fits))
  rw [controlByte_decode_encode _ fits]
  exact (fails_readTag long _).map _

theorem failsAtEnd_readTagType : FailsAtEnd (source .little) readTagType := by
  have oneByte : Rejects (source .little) (reading DataReader.readUInt8) [0] :=
    rejects_readUInt rfl
  exact (oneByte.failsAtEnd (List.cons_ne_nil _ _)).bind

end TagType

/-- The value can be written in the width of its type. -/
def TlvPrimitive.Fits : TlvTypeLength → TlvPrimitive → Prop
  | .signedInt length, .number value =>
    value.den = 1 ∧ -(256 ^ getUIntByteLength length) ≤ 2 * value.num ∧
      2 * value.num < 256 ^ getUIntByteLength length
  | .unsignedInt length, .number value =>
    value.den = 1 ∧ 0 ≤ value.num ∧ value.num < 256 ^ getUIntByteLength length
  | .float length, .float bits => bits < 256 ^ getUIntByteLength length.toLength
  | .utf8String length, .string text =>
    (Utf8.encode text).length < 256 ^ getUIntByteLength length
  | .byteString length, .bytes data => data.length < 256 ^ getUIntByteLength length
  | _, _ => False

def primitiveBytes : TlvTypeLength → TlvPrimitive → Bytes
  | .signedInt length, .number value | .unsignedInt length, .number value =>
    encode .little (getUIntByteLength length) (value.num % 256 ^ getUIntByteLength length).toNat
  | .float length, .float bits => encode .little (getUIntByteLength length.toLength) bits
  | .utf8String length, .string text =>
    encode .little (getUIntByteLength length) (Utf8.encode text).length ++ Utf8.encode text
  | .byteString length, .bytes data =>
    encode .little (getUIntByteLength length) data.length ++ data
  | _, _ => []

/-- What is read back of a written value: text loses a byte order mark. -/
def TlvPrimitive.readBack : TlvPrimitive → TlvPrimitive
  | .string text => .string (DataReader.dropByteOrderMark text)
  | value => value

theorem num_of_integer {value : Rat} (integer : value.den = 1) : (value.num : Rat) = value := by
  conv_rhs => rw [← Rat.num_div_den value]
  rw [integer, Nat.cast_one, div_one]

theorem emod_toNat_lt (value : Int) (width : Nat) :
    (value % 256 ^ width).toNat < 256 ^ width := by
  have positive : (0 : Int) < 256 ^ width := by positivity
  have bound := Int.emod_lt_of_pos value positive
  have nonnegative := Int.emod_nonneg value positive.ne'
  zify
  rwa [Int.toNat_of_nonneg nonnegative]

/-! Numbers and sizes of a TLV length. -/

theorem reads_ofLength {length : TlvLength} {value : Nat}
    (fits : value < 256 ^ getUIntByteLength length) :
    Reads (source .little) (readUInt length)
      (encode .little (getUIntByteLength length) value) value := by
  rw [readUInt_eq]
  exact reads_readUInt fits

theorem rejects_ofLength (length : TlvLength) (value : Nat) :
    Rejects (source .little) (readUInt length)
      (encode .little (getUIntByteLength length) value) := by
  rw [readUInt_eq]
  exact rejects_readUInt (encode_length _ _ _)

theorem reads_readInt {length : TlvLength} {value : Int}
    (lower : -(256 ^ getUIntByteLength length) ≤ 2 * value)
    (upper : 2 * value < 256 ^ getUIntByteLength length) :
    Reads (source .little) (readInt length)
      (encode .little (getUIntByteLength length)
        (value % 256 ^ getUIntByteLength length).toNat) value := by
  have reads := (@reads_readUInt .little _ _
    (emod_toNat_lt value (getUIntByteLength length))).map (toSigned (getUIntByteLength length))
  rw [toSigned_emod lower upper] at reads
  rw [readInt_eq]
  exact reads

theorem reads_readPrimitive {typeLength : TlvTypeLength} {value : TlvPrimitive}
    (fits : value.Fits typeLength) :
    Reads (source .little) (readPrimitive typeLength) (primitiveBytes typeLength value)
      value.readBack := by
  match typeLength, value with
  | .signedInt length, .number value =>
    rcases fits with ⟨integer, lower, upper⟩
    have reads := (reads_readInt lower upper).map (fun read : Int => TlvPrimitive.number read)
    rwa [num_of_integer integer] at reads
  | .unsignedInt length, .number value =>
    rcases fits with ⟨integer, nonnegative, upper⟩
    have natural : (((value.num % 256 ^ getUIntByteLength length).toNat : Nat) : Rat) =
        value := by
      rw [Int.emod_eq_of_lt nonnegative upper]
      conv_rhs => rw [← num_of_integer integer, ← Int.toNat_of_nonneg nonnegative]
      rfl
    have reads := (@reads_ofLength length _ (emod_toNat_lt value.num _)).map
      (fun read : Nat => TlvPrimitive.number read)
    rwa [natural] at reads
  | .float .fourBytes, .float bits => exact (reads_readUInt fits).map _
  | .float .eightBytes, .float bits => exact (reads_readUInt fits).map _
  | .utf8String length, .string text =>
    exact (reads_ofLength fits).bind ((DataReader.reads_readUtf8String text).map _)
  | .byteString length, .bytes data =>
    exact (reads_ofLength fits).bind ((DataReader.reads_readByteArray data).map _)

theorem exhausts_readByteArray (data : Bytes) :
    Exhausts (source .little) (taking (DataReader.readByteArray · data.length)) data := by
  intro reader missing usable notEmpty cut
  have lengths := congrArg List.length cut
  rw [List.length_append] at lengths
  have short : reader.remainingBytes.length ≤ data.length := by
    show ((source .little).remaining reader).length ≤ data.length
    omega
  rcases DataReader.readByteArray_of_short short with ⟨next, run, sameEndian, nothing⟩
  exact .inr ⟨_, next, congrArg Except.ok run, sameEndian.trans usable, nothing⟩

theorem exhausts_readUtf8String (text : List Char) :
    Exhausts (source .little)
      (taking (DataReader.readUtf8String · (Utf8.encode text).length)) (Utf8.encode text) :=
  (exhausts_readByteArray (Utf8.encode text)).map DataReader.decodeText

/-- The width of the size that stands before a string or byte string. -/
def TlvTypeLength.sizeLength : TlvTypeLength → Option TlvLength
  | .utf8String length | .byteString length => some length
  | _ => none

theorem rejects_readPrimitive {typeLength : TlvTypeLength} {value : TlvPrimitive}
    (fits : value.Fits typeLength) (noSize : typeLength.sizeLength = none) :
    Rejects (source .little) (readPrimitive typeLength) (primitiveBytes typeLength value) := by
  match typeLength, value with
  | .signedInt length, .number value =>
    rw [readPrimitive, readInt_eq, primitiveBytes]
    apply Rejects.andThen
    apply Rejects.andThen
    exact rejects_readUInt (encode_length _ _ _)
  | .unsignedInt length, .number value => exact (rejects_ofLength _ _).andThen
  | .float .fourBytes, .float bits =>
    rw [primitiveBytes]
    apply Rejects.andThen
    exact rejects_readUInt (encode_length _ _ _)
  | .float .eightBytes, .float bits =>
    rw [primitiveBytes]
    apply Rejects.andThen
    exact rejects_readUInt (encode_length _ _ _)
  | .utf8String length, _ => cases noSize
  | .byteString length, _ => cases noSize

def payload : TlvPrimitive → Bytes
  | .string text => Utf8.encode text
  | .bytes data => data
  | _ => []

theorem readPrimitive_ofSize {typeLength : TlvTypeLength} {value : TlvPrimitive}
    {length : TlvLength} (fits : value.Fits typeLength)
    (hasSize : typeLength.sizeLength = some length) :
    primitiveBytes typeLength value =
        encode .little (getUIntByteLength length) (payload value).length ++ payload value ∧
      (payload value).length < 256 ^ getUIntByteLength length ∧
      ∃ take : Nat → Action DataReader MatterError TlvPrimitive,
        readPrimitive typeLength = readUInt length >>= take ∧
        Exhausts (source .little) (take (payload value).length) (payload value) ∧
        ∀ reader, ∃ result, take (payload value).length reader = .ok result := by
  match typeLength, value with
  | .signedInt _, _ | .unsignedInt _, _ | .float _, _ => cases hasSize
  | .utf8String length, .string text =>
    cases hasSize
    refine ⟨rfl, fits, fun size => taking (DataReader.readUtf8String · size) >>=
      fun text => pure (.string text), rfl, (exhausts_readUtf8String text).map _, ?_⟩
    intro reader
    exact ⟨_, run_bind _ _ _⟩
  | .byteString length, .bytes data =>
    cases hasSize
    refine ⟨rfl, fits, fun size => taking (DataReader.readByteArray · size) >>=
      fun data => pure (.bytes data), rfl, (exhausts_readByteArray data).map _, ?_⟩
    intro reader
    exact ⟨_, run_bind _ _ _⟩

/-- Where a string or byte string is cut behind its size, the reader does not notice. -/
theorem exhausts_readPrimitive {typeLength : TlvTypeLength} {value : TlvPrimitive}
    (fits : value.Fits typeLength) :
    Exhausts (source .little) (readPrimitive typeLength) (primitiveBytes typeLength value) := by
  cases hasSize : typeLength.sizeLength with
  | none => exact (rejects_readPrimitive fits hasSize).exhausts
  | some length =>
    rcases readPrimitive_ofSize fits hasSize with ⟨bytes, sizeFits, take, isTake, exhausts, _⟩
    rw [bytes, isTake]
    exact (rejects_ofLength _ _).bind_exhausts (reads_ofLength sizeFits) exhausts

/-! ## Progress -/

theorem advances_readUInt {width : Nat} (positive : 0 < width) :
    Advances (source .little) (reading (DataReader.readUInt · width)) :=
  DataReader.advances_readUInt positive

theorem keeps_readTag (tagControl : TagControl) :
    Keeps (source .little) (readTag tagControl) := by
  have oneRead {width : Nat} (positive : 0 < width) (make : Nat → Option TlvTag) :
      Keeps (source .little)
        (reading (DataReader.readUInt · width) >>= fun id => pure (make id)) :=
    (advances_readUInt positive).keeps.bind fun _ => Keeps.pure _
  cases tagControl with
  | anonymous => exact Keeps.pure _
  | contextSpecific => exact oneRead (by decide) _
  | commonProfile16 => exact oneRead (by decide) _
  | commonProfile32 => exact oneRead (by decide) _
  | implicitProfile16 | implicitProfile32 | fullyQualified64 => exact Keeps.throw _
  | fullyQualified48 =>
    exact (advances_readUInt (by decide)).keeps.bind fun _ => oneRead (by decide) _

/-- Every tag takes at least its control byte. -/
theorem advances_readTagType : Advances (source .little) readTagType := by
  apply (advances_readUInt (by decide)).bind
  intro control
  exact (keeps_readTag _).bind fun _ => Keeps.pure _

theorem keeps_ofLength (length : TlvLength) :
    Keeps (source .little) (readUInt length) := by
  rw [readUInt_eq]
  exact (advances_readUInt (getUIntByteLength_pos length)).keeps

theorem keeps_readPrimitive (typeLength : TlvTypeLength) :
    Keeps (source .little) (readPrimitive typeLength) := by
  have oneRead {width : Nat} (positive : 0 < width) (make : Nat → TlvPrimitive) :
      Keeps (source .little)
        (reading (DataReader.readUInt · width) >>= fun bits => pure (make bits)) :=
    (advances_readUInt positive).keeps.bind fun _ => Keeps.pure _
  cases typeLength with
  | signedInt length =>
    rw [readPrimitive, readInt_eq]
    apply Keeps.bind _ fun _ => Keeps.pure _
    exact (advances_readUInt (getUIntByteLength_pos length)).keeps.bind fun _ => Keeps.pure _
  | unsignedInt length => exact (keeps_ofLength length).bind fun _ => Keeps.pure _
  | float length => cases length <;> exact oneRead (by decide) _
  | utf8String length =>
    apply (keeps_ofLength length).bind
    intro size
    exact ((DataReader.keeps_readByteArray size).bind fun data => Keeps.pure
      (DataReader.decodeText data)).bind fun text => Keeps.pure _
  | byteString length =>
    apply (keeps_ofLength length).bind
    intro size
    exact (DataReader.keeps_readByteArray size).bind fun _ => Keeps.pure _
  | boolean | null => exact Keeps.pure _
  | struct | array | list | endOfContainer | reserved => exact Keeps.throw _

section Writing

variable {writer : DataWriter} (little : writer.endian = .little)

include little

theorem toByteArray_writeUInt_little {width value : Nat} (fits : value < 256 ^ width) :
    (writer.writeUInt width value).toByteArray =
      writer.toByteArray ++ encode .little width value := by
  rw [DataWriter.toByteArray_writeUInt_of_fits writer fits, little]

theorem writeTag_eq {typeLength : TlvTypeLength} {tag : Option TlvTag}
    (known : typeLength.Known) (wellFormed : ∀ present ∈ tag, present.WellFormed) :
    ∃ next, writeTag writer typeLength tag = .ok next ∧ next.endian = .little ∧
      next.toByteArray = writer.toByteArray ++ tagBytes typeLength tag := by
  have control (tagControl : TagControl) :=
    toByteArray_writeUInt_little little (controlByte_encode_lt tagControl (typeLengthCode_lt known))
  have field (tagControl : TagControl) {width value : Nat} (fits : value < 256 ^ width) :
      ((writer.writeUInt8 (ControlByteSchema.encode tagControl
        (typeLengthCode typeLength))).writeUInt width value).toByteArray =
        writer.toByteArray ++ (encode .little 1 (ControlByteSchema.encode tagControl
          (typeLengthCode typeLength)) ++ encode .little width value) := by
    rw [DataWriter.toByteArray_writeUInt_of_fits _ fits, DataWriter.writeUInt8, control,
      DataWriter.endian_writeUInt, little, List.append_assoc]
  match tag with
  | none =>
    refine ⟨_, rfl, little, ?_⟩
    exact control .anonymous
  | some { profile := none, id := some id } =>
    exact ⟨_, rfl, little, field .contextSpecific (wellFormed _ rfl)⟩
  | some { profile := some profile, id := none } => exact (wellFormed _ rfl).elim
  | some { profile := some profile, id := some id } =>
    rcases wellFormed _ rfl with ⟨profileFits, idFits⟩
    have half := Bitwise32.and_upperHalf_eq_zero_iff idFits
    simp only [writeTag, tagBytes, tagFields, Option.bind_some, Option.getD_some, half]
    by_cases common : profile = MATTER_COMMON_PROFILE
    · by_cases short : id < 2 ^ 16
      · simp only [if_pos common, if_pos short]
        exact ⟨_, rfl, little, field .commonProfile16 short⟩
      · simp only [if_pos common, if_neg short]
        exact ⟨_, rfl, little, field .commonProfile32 idFits⟩
    · by_cases short : id < 2 ^ 16
      · simp only [if_neg common, if_pos short]
        refine ⟨_, rfl, little, ?_⟩
        rw [DataWriter.writeUInt16, DataWriter.toByteArray_writeUInt_of_fits _ short,
          DataWriter.writeUInt32, field .fullyQualified48 profileFits]
        simp [DataWriter.writeUInt8, little]
      · simp only [if_neg common, if_neg short]
        refine ⟨_, rfl, little, ?_⟩
        rw [DataWriter.writeUInt32, DataWriter.toByteArray_writeUInt_of_fits _ idFits,
          DataWriter.writeUInt32, field .fullyQualified64 profileFits]
        simp [DataWriter.writeUInt8, little]

theorem writePrimitive_eq {typeLength : TlvTypeLength} {value : TlvPrimitive}
    (fits : value.Fits typeLength) :
    ∃ next, writePrimitive writer typeLength value = .ok next ∧ next.endian = .little ∧
      next.toByteArray = writer.toByteArray ++ primitiveBytes typeLength value := by
  match typeLength, value with
  | .signedInt length, .number value =>
    refine ⟨_, writeUInt_of_integer writer length fits.1, little, ?_⟩
    rw [DataWriter.toByteArray_writeUInt, little]
    rfl
  | .unsignedInt length, .number value =>
    have kept := truncate_of_integer fits.1
    refine ⟨writer.writeUInt (getUIntByteLength length) value.num, ?_, little, ?_⟩
    · cases length with
      | oneByte => simp only [writePrimitive, kept]; rfl
      | twoBytes => simp only [writePrimitive, kept]; rfl
      | fourBytes => simp only [writePrimitive, kept]; rfl
      | eightBytes => simp only [writePrimitive, toBigInt, if_pos fits.1]; rfl
    · rw [DataWriter.toByteArray_writeUInt, little]
      rfl
  | .float .fourBytes, .float bits =>
    exact ⟨_, rfl, little, toByteArray_writeUInt_little little fits⟩
  | .float .eightBytes, .float bits =>
    exact ⟨_, rfl, little, toByteArray_writeUInt_little little fits⟩
  | .utf8String length, .string text =>
    refine ⟨(writer.writeUInt (getUIntByteLength length)
      (Utf8.encode text).length).writeByteArray (Utf8.encode text), ?_, little, ?_⟩
    · simp only [writePrimitive, writeUInt_of_size]
      rfl
    · rw [DataWriter.toByteArray_writeByteArray, toByteArray_writeUInt_little little fits,
        List.append_assoc]
      rfl
  | .byteString length, .bytes data =>
    refine ⟨(writer.writeUInt (getUIntByteLength length)
      data.length).writeByteArray data, ?_, little, ?_⟩
    · simp only [writePrimitive, writeUInt_of_size]
      rfl
    · rw [DataWriter.toByteArray_writeByteArray, toByteArray_writeUInt_little little fits,
        List.append_assoc]
      rfl

end Writing

end MatterJs.Types
