import MatterJs.General.DnsRoundTrip

/-! The addresses of AAAA records as texts, and which of them are written right. -/

namespace MatterJs.General

/-- Four hexadecimal digits at most -/
structure IsGroup (group : List Char) : Prop where
  nonempty : group ≠ []
  short : group.length ≤ 4
  hexadecimal : ∀ char ∈ group, ∃ digit < 16, digitValue char = some digit

/-- Eight groups, or fewer of them and two colons before, between or behind them -/
def IsIPv6Address (ip : List Char) : Prop :=
  let parts := ip.splitOn ':'
  (parts.length = 8 ∧ ∀ group ∈ parts, IsGroup group) ∨
    ∃ left right, left.length + right.length ≤ 7 ∧ (∀ group ∈ left ++ right, IsGroup group) ∧
      parts = (if left = [] then [[]] else left) ++ [] :: (if right = [] then [[]] else right)

theorem isGroup_toDigits {word : Nat} (small : word < 2 ^ 16) : IsGroup (Nat.toDigits 16 word) where
  nonempty := Nat.toDigits_ne_nil
  short := (Nat.length_toDigits_le_iff (by decide) (by decide)).mpr small
  hexadecimal char member := ((leadingNumber_toDigits word).1 char member).value

namespace DnsCodec

open Consumption
open DataReader (source)

/-- The run of zero words that is left out: the first of the shortest -/
def compressedRun (words : List Nat) : Option (Nat × Nat) :=
  ((zeroSequences 0 0 (words.map (Nat.toDigits 16))).mergeSort
    fun first second => first.2 ≤ second.2).head?

def addressItems (words : List Nat) : List (List Char) :=
  match compressedRun words with
  | none => words.map (Nat.toDigits 16)
  | some (start, length) =>
    (words.take start).map (Nat.toDigits 16) ++
      [] :: (words.drop (start + length)).map (Nat.toDigits 16)

theorem decodeAaaaRecord_eq : decodeAaaaRecord =
    (fun words => [':'].intercalate (addressItems words)) <$>
      times (read DataReader.readUInt16) 8 := by
  rw [← bind_pure_comp]
  refine congrArg _ (funext fun words => ?_)
  simp only [addressItems, compressedRun]
  cases (zeroSequences 0 0 (words.map (Nat.toDigits 16))).mergeSort
      fun first second => first.2 ≤ second.2 with
  | nil => rfl
  | cons run later => simp

theorem reads_decodeAaaaRecord {words : List Nat} (eight : words.length = 8)
    (small : ∀ word ∈ words, word < 256 ^ 2) :
    Reads (source .big) decodeAaaaRecord (words.map (ByteOrder.encode .big 2)).flatten
      ([':'].intercalate (addressItems words)) := by
  have reads := @reads_times _ _ _ id _ fun word member => reads_readUInt16 (small word member)
  rw [List.map_id, eight] at reads
  rw [decodeAaaaRecord_eq]
  exact reads_map _ reads

/-! ## Runs of zeros -/

theorem zeroSequences_spec {start zeros : Nat} {items : List (List Char)} {run : Nat × Nat}
    (enough : zeros ≤ start) (member : run ∈ zeroSequences start zeros items) :
    0 < run.2 ∧ ∃ before after,
      List.replicate zeros ['0'] ++ items = before ++ (List.replicate run.2 ['0'] ++ after) ∧
        run.1 = start - zeros + before.length := by
  induction items generalizing start zeros with
  | nil =>
    rw [zeroSequences] at member
    split at member
    · cases member
    · rename_i some
      rw [List.mem_singleton.mp member]
      exact ⟨Nat.pos_of_ne_zero some, [], [], rfl, rfl⟩
  | cons item items induction =>
    have later (noZero : run ∈ zeroSequences (start + 1) 0 items) : 0 < run.2 ∧
        ∃ before after, List.replicate zeros ['0'] ++ item :: items =
          before ++ (List.replicate run.2 ['0'] ++ after) ∧
          run.1 = start - zeros + before.length := by
      rcases induction (Nat.zero_le _) noZero with ⟨positive, before, after, split, position⟩
      refine ⟨positive, List.replicate zeros ['0'] ++ item :: before, after, ?_, ?_⟩
      · rw [show items = _ from split]
        simp
      · rw [List.length_append, List.length_replicate, List.length_cons]
        omega
    rw [zeroSequences] at member
    split at member
    · rename_i isZero
      rcases induction (Nat.succ_le_succ enough) member with
        ⟨positive, before, after, split, position⟩
      refine ⟨positive, before, after, ?_, by omega⟩
      rw [← split, isZero, List.replicate_succ']
      simp
    · split at member
      · exact later member
      · rename_i some
        rcases List.mem_cons.mp member with rfl | member
        · exact ⟨Nat.pos_of_ne_zero some, [], item :: items, rfl, rfl⟩
        · exact later member

theorem eq_zero_of_toDigits {word : Nat} (isZero : Nat.toDigits 16 word = ['0']) : word = 0 := by
  have parsed := parseInt_toDigits_hex word
  rw [isZero] at parsed
  exact (Int.ofNat_inj.mp (Option.some.inj parsed)).symm

theorem compressedRun_spec {words : List Nat} {start length : Nat}
    (isRun : compressedRun words = some (start, length)) :
    0 < length ∧ start + length ≤ words.length ∧
      words = words.take start ++ (List.replicate length 0 ++ words.drop (start + length)) := by
  have member := List.mem_mergeSort.mp (List.mem_of_head? isRun)
  rcases zeroSequences_spec (Nat.zero_le _) member with ⟨positive, before, after, split, position⟩
  rcases List.map_eq_append_iff.mp split with ⟨left, others, isWords, isBefore, isOthers⟩
  rcases List.map_eq_append_iff.mp isOthers with ⟨zeros, right, rfl, isZeros, _⟩
  have isReplicate : zeros = List.replicate length 0 := by
    rw [List.eq_replicate_iff] at isZeros ⊢
    rw [List.length_map] at isZeros
    refine ⟨isZeros.1, fun word isWord => eq_zero_of_toDigits ?_⟩
    exact isZeros.2 _ (List.mem_map_of_mem isWord)
  have isStart : start = left.length := by
    rw [← isBefore, List.length_map] at position
    omega
  rw [isWords, isReplicate, isStart]
  refine ⟨positive, by simp, ?_⟩
  rw [List.take_left, ← List.append_assoc, List.drop_left' (by simp), List.append_assoc]

variable {words left right : List Nat} {writer : DataWriter}

def writePart (total : Nat) (writer : DataWriter) (part : List Char) : DataWriter :=
  let writer :=
    if part = [] then
      (List.range (8 - total)).foldl (fun writer _ => writer.writeUInt16 0) writer
    else writer
  writer.writeUInt16 ((parseInt part 16).getD 0)

theorem foldl_writeUInt16_zero (count : Nat) (big : writer.endian = .big) :
    ((List.range count).foldl (fun writer _ => writer.writeUInt16 0) writer).endian = .big ∧
    ((List.range count).foldl (fun writer _ => writer.writeUInt16 0) writer).toByteArray =
      writer.toByteArray ++ ((List.replicate count 0).map (ByteOrder.encode .big 2)).flatten := by
  induction count with
  | zero => exact ⟨big, (List.append_nil _).symm⟩
  | succ count induction =>
    rw [List.range_succ, List.foldl_append, List.replicate_succ']
    refine ⟨induction.1, ?_⟩
    have written := DataWriter.toByteArray_writeUInt_of_fits
      ((List.range count).foldl (fun writer _ => writer.writeUInt16 0) writer)
      (show 0 < 256 ^ 2 by decide)
    rw [induction.1, induction.2] at written
    simpa [DataWriter.writeUInt16] using written

theorem foldl_writePart (total : Nat) (small : ∀ word ∈ words, word < 256 ^ 2)
    (big : writer.endian = .big) :
    ((words.map (Nat.toDigits 16)).foldl (writePart total) writer).endian = .big ∧
    ((words.map (Nat.toDigits 16)).foldl (writePart total) writer).toByteArray =
      writer.toByteArray ++ (words.map (ByteOrder.encode .big 2)).flatten := by
  induction words generalizing writer with
  | nil => exact ⟨big, (List.append_nil _).symm⟩
  | cons word words induction =>
    rw [List.forall_mem_cons] at small
    have one : writePart total writer (Nat.toDigits 16 word) = writer.writeUInt16 word := by
      rw [writePart, if_neg Nat.toDigits_ne_nil, parseInt_toDigits_hex]
      rfl
    rw [List.map_cons, List.foldl_cons, one]
    rcases induction small.2 (show (writer.writeUInt16 word).endian = .big from big) with
      ⟨isBig, written⟩
    refine ⟨isBig, ?_⟩
    rw [written, DataWriter.writeUInt16, DataWriter.toByteArray_writeUInt_of_fits _ small.1, big]
    simp

theorem colon_not_mem_toDigits (word : Nat) : ':' ∉ Nat.toDigits 16 word :=
  fun colon => ((leadingNumber_toDigits word).1 ':' colon).notMark (by decide)

theorem splitOn_items {items : List (List Char)}
    (areItems : ∀ item ∈ items, item = [] ∨ ∃ word, item = Nat.toDigits 16 word)
    (some : items ≠ []) : ([':'].intercalate items).splitOn ':' = items := by
  refine List.splitOn_intercalate ':' ?_ some
  intro item member colon
  rcases areItems item member with rfl | ⟨word, rfl⟩
  · cases colon
  · exact colon_not_mem_toDigits word colon

theorem encodeAaaaRecord_eq {items : List (List Char)} (several : 2 ≤ items.length)
    (parted : ([':'].intercalate items).splitOn ':' = items) :
    encodeAaaaRecord ([':'].intercalate items) =
      .ok (items.foldl (writePart items.length) (DataWriter.new .big)).toByteArray := by
  have hasColon : isIPv6 ([':'].intercalate items) = true := by
    match items, several with
    | first :: second :: others, _ => simp [isIPv6]
  rw [encodeAaaaRecord, hasColon, parted]
  rfl

theorem foldl_compressed (smallLeft : ∀ word ∈ left, word < 256 ^ 2)
    (smallRight : ∀ word ∈ right, word < 256 ^ 2) {length : Nat} (positive : 0 < length)
    (eight : left.length + length + right.length = 8) :
    ((left.map (Nat.toDigits 16) ++ [] :: right.map (Nat.toDigits 16)).foldl
      (writePart (left.length + (right.length + 1))) (DataWriter.new .big)).toByteArray =
      ((left ++ (List.replicate length 0 ++ right)).map (ByteOrder.encode .big 2)).flatten := by
  have isCount : 8 - (left.length + (right.length + 1)) = length - 1 := by omega
  have atLeft := @foldl_writePart left (.new .big) (left.length + (right.length + 1)) smallLeft rfl
  let written := (left.map (Nat.toDigits 16)).foldl (writePart (left.length + (right.length + 1)))
    (DataWriter.new .big)
  have atZeros := foldl_writeUInt16_zero length atLeft.1
  have zeros : writePart (left.length + (right.length + 1)) written [] =
      (List.range length).foldl (fun writer _ => writer.writeUInt16 0) written := by
    have isSucc : length = length - 1 + 1 := by omega
    rw [isSucc, List.range_succ, List.foldl_append, writePart, isCount]
    rfl
  rw [List.foldl_append, List.foldl_cons]
  rw [zeros, (foldl_writePart _ smallRight atZeros.1).2, atZeros.2, atLeft.2]
  simp

/-! ## Which addresses are written right -/

def wordsOf : Bytes → List Nat
  | high :: low :: bytes => (high.toNat * 256 + low.toNat) :: wordsOf bytes
  | _ => []

theorem wordsOf_spec (count : Nat) {valueBytes : Bytes} (isLength : valueBytes.length = 2 * count) :
    (wordsOf valueBytes).length = count ∧ (∀ word ∈ wordsOf valueBytes, word < 256 ^ 2) ∧
      ((wordsOf valueBytes).map (ByteOrder.encode .big 2)).flatten = valueBytes := by
  induction count generalizing valueBytes with
  | zero =>
    rw [List.length_eq_zero_iff.mp isLength]
    exact ⟨rfl, List.forall_mem_nil _, rfl⟩
  | succ count induction =>
    match valueBytes, isLength with
    | high :: low :: bytes, isLength =>
      simp only [List.length_cons] at isLength
      rcases @induction bytes (by omega) with ⟨same, small, written⟩
      have upper := high.toNat_lt
      have lower := low.toNat_lt
      have encoded : ByteOrder.encode .big 2 (high.toNat * 256 + low.toNat) = [high, low] := by
        have isHigh : (high.toNat * 256 + low.toNat) / 256 = high.toNat := by omega
        have isLow : UInt8.ofNat (high.toNat * 256 + low.toNat) = low := by
          apply UInt8.toNat_inj.mp
          simp only [UInt8.toNat_ofNat']
          omega
        rw [ByteOrder.encode]
        simp only [ByteOrder.digits, isHigh, isLow, UInt8.ofNat_toNat]
        rfl
      refine ⟨by rw [wordsOf, List.length_cons, same], ?_, ?_⟩
      · rw [wordsOf, List.forall_mem_cons]
        exact ⟨by omega, small⟩
      · rw [wordsOf, List.map_cons, List.flatten_cons, written, encoded]
        rfl

theorem splitOn_addressItems {words : List Nat} (eight : words.length = 8) :
    ([':'].intercalate (addressItems words)).splitOn ':' = addressItems words := by
  rw [addressItems]
  split
  · refine splitOn_items (fun item member => ?_) ?_
    · rcases List.mem_map.mp member with ⟨word, _, rfl⟩
      exact .inr ⟨word, rfl⟩
    · rintro empty
      rw [List.map_eq_nil_iff.mp empty] at eight
      cases eight
  · refine splitOn_items (fun item member => ?_) (by simp)
    rcases List.mem_append.mp member with before | others
    · rcases List.mem_map.mp before with ⟨word, _, rfl⟩
      exact .inr ⟨word, rfl⟩
    · rcases List.mem_cons.mp others with rfl | after
      · exact .inl rfl
      · rcases List.mem_map.mp after with ⟨word, _, rfl⟩
        exact .inr ⟨word, rfl⟩

/-- The address of a record is well formed, and encoded to the record again. -/
def IsWrittenRight (valueBytes : Bytes) : Prop :=
  ∃ ip reader, decodeAaaaRecord (.new valueBytes .big) = .ok (ip, reader) ∧ IsIPv6Address ip ∧
    encodeAaaaRecord ip = .ok valueBytes

/-- No word is left out at the front or at the end. -/
def CompressesInside (valueBytes : Bytes) : Prop :=
  ∀ start length, compressedRun (wordsOf valueBytes) = some (start, length) →
    0 < start ∧ start + length < 8

theorem isIPv6Address_compressed {left right : List (List Char)}
    (leftGroups : ∀ group ∈ left, IsGroup group) (rightGroups : ∀ group ∈ right, IsGroup group)
    (short : left.length + right.length ≤ 7) {ip : List Char}
    (parted : ip.splitOn ':' = left ++ [] :: right) :
    IsIPv6Address ip ↔ left ≠ [] ∧ right ≠ [] := by
  have noEmpty {groups : List (List Char)} (areGroups : ∀ group ∈ groups, IsGroup group) :
      [] ∉ groups :=
    fun member => (areGroups [] member).nonempty rfl
  rw [IsIPv6Address, parted]
  constructor
  · rintro (⟨_, areGroups⟩ | ⟨first, last, _, areGroups, same⟩)
    · exact absurd (List.mem_append_right _ List.mem_cons_self) (noEmpty areGroups)
    · have inFirst := noEmpty fun group member => areGroups group (List.mem_append_left _ member)
      have inLast := noEmpty fun group member => areGroups group (List.mem_append_right _ member)
      have one : (left ++ [] :: right).count [] = 1 := by
        rw [List.count_append, List.count_cons_self,
          List.count_eq_zero_of_not_mem (noEmpty leftGroups),
          List.count_eq_zero_of_not_mem (noEmpty rightGroups)]
      have someFirst : first ≠ [] := by
        rintro rfl
        simp [same] at one
      have someLast : last ≠ [] := by
        rintro rfl
        simp [same] at one
      rw [if_neg someLast] at same
      constructor
      · rintro rfl
        rcases List.exists_cons_of_ne_nil someFirst with ⟨group, groups, rfl⟩
        exact inFirst ((List.cons.inj same).1 ▸ List.mem_cons_self)
      · rintro rfl
        have ends := congrArg List.getLast? same
        rw [List.getLast?_append_of_ne_nil _ (List.cons_ne_nil _ _),
          List.getLast?_append_of_ne_nil _ (List.cons_ne_nil _ _),
          List.getLast?_cons_of_ne_nil someLast] at ends
        exact inLast (List.mem_of_getLast? ends.symm)
  · rintro ⟨someLeft, someRight⟩
    refine .inr ⟨left, right, short, ?_, by rw [if_neg someLeft, if_neg someRight]⟩
    intro group member
    exact (List.mem_append.mp member).elim (leftGroups group) (rightGroups group)

theorem isWrittenRight_iff_inside {words : List Nat} {valueBytes : Bytes} (eight : words.length = 8)
    (small : ∀ word ∈ words, word < 256 ^ 2)
    (written : (words.map (ByteOrder.encode .big 2)).flatten = valueBytes) :
    IsWrittenRight valueBytes ↔ ∀ start length, compressedRun words = some (start, length) →
      0 < start ∧ start + length < 8 := by
  let ip := [':'].intercalate (addressItems words)
  have isGroup {some : List Nat} (inside : some ⊆ words) :
      ∀ group ∈ some.map (Nat.toDigits 16), IsGroup group := by
    intro group member
    rcases List.mem_map.mp member with ⟨word, isWord, rfl⟩
    exact isGroup_toDigits (small word (inside isWord))
  have decodes : IsWrittenRight valueBytes ↔
      IsIPv6Address ip ∧ encodeAaaaRecord ip = .ok valueBytes := by
    rcases reads_decodeAaaaRecord eight small (.new valueBytes .big) [] rfl
      (by rw [written, List.append_nil]; rfl) with ⟨reader, run, _⟩
    constructor
    · rintro ⟨other, otherReader, decoded, right⟩
      cases run.symm.trans decoded
      exact right
    · exact fun right => ⟨ip, reader, run, right⟩
  rw [decodes]
  cases isRun : compressedRun words with
  | none =>
    have items : addressItems words = words.map (Nat.toDigits 16) := by rw [addressItems, isRun]
    have isLength : (addressItems words).length = 8 := by rw [items, List.length_map, eight]
    have parted := splitOn_addressItems eight
    refine iff_of_true ⟨.inl ?_, ?_⟩ fun _ _ isOther => by cases isOther
    · rw [parted]
      exact ⟨isLength, items ▸ isGroup (List.Subset.refl _)⟩
    · rw [encodeAaaaRecord_eq (by omega) parted, items, (foldl_writePart _ small rfl).2, written]
      rfl
  | some run =>
    rcases run with ⟨start, length⟩
    rcases compressedRun_spec isRun with ⟨positive, inside, isWords⟩
    let left := words.take start
    let right := words.drop (start + length)
    have items : addressItems words =
        left.map (Nat.toDigits 16) ++ [] :: right.map (Nat.toDigits 16) := by
      rw [addressItems, isRun]
    have leftLength : left.length = start := by
      rw [List.length_take]
      omega
    have rightLength : right.length = 8 - (start + length) := by
      rw [List.length_drop]
      omega
    have parted := splitOn_addressItems eight
    have valid := isIPv6Address_compressed (isGroup (List.take_subset start words))
      (isGroup (List.drop_subset (start + length) words))
      (by rw [List.length_map, List.length_map, leftLength, rightLength]; omega)
      (parted.trans items)
    have atEnds : (left.map (Nat.toDigits 16) ≠ [] ∧ right.map (Nat.toDigits 16) ≠ []) ↔
        0 < start ∧ start + length < 8 := by
      rw [← List.length_pos_iff, ← List.length_pos_iff, List.length_map, List.length_map]
      omega
    have inside_iff : (∀ first count, some (start, length) = some (first, count) →
        0 < first ∧ first + count < 8) ↔ 0 < start ∧ start + length < 8 := by
      constructor
      · exact fun all => all start length rfl
      · intro holds first count isOther
        cases isOther
        exact holds
    rw [inside_iff, ← atEnds, valid]
    refine and_iff_left_of_imp fun ends => ?_
    have ends := atEnds.mp ends
    have isLength : (addressItems words).length = left.length + (right.length + 1) := by
      rw [items]
      simp
    have total : left.length + length + right.length = 8 := by
      omega
    rw [encodeAaaaRecord_eq (by omega) parted, isLength, items,
      foldl_compressed (fun word member => small word (List.mem_of_mem_take member))
        (fun word member => small word (List.mem_of_mem_drop member)) positive total,
      ← isWords, written]

theorem aaaaRecord_isWrittenRight_iff (valueBytes : Bytes) (isAddress : valueBytes.length = 16) :
    IsWrittenRight valueBytes ↔ CompressesInside valueBytes := by
  rcases wordsOf_spec 8 isAddress with ⟨eight, small, written⟩
  exact isWrittenRight_iff_inside eight small written

/-- An address without a zero word at its ends -/
theorem aaaaRecord_isWrittenRight_documentation :
    IsWrittenRight [32, 1, 13, 184, 0, 0, 0, 0, 0, 0, 0, 0, 0, 0, 0, 1] :=
  (aaaaRecord_isWrittenRight_iff _ rfl).mpr (by
    intro start length isRun
    cases (show compressedRun (wordsOf [32, 1, 13, 184, 0, 0, 0, 0, 0, 0, 0, 0, 0, 0, 0, 1]) =
      some (2, 5) by decide +kernel).symm.trans isRun
    decide)

/-- The loopback address is written as `:1`. -/
theorem aaaaRecord_isWrittenRight_false :
    ¬∀ valueBytes : Bytes, valueBytes.length = 16 → IsWrittenRight valueBytes := by
  intro all
  have right := all [0, 0, 0, 0, 0, 0, 0, 0, 0, 0, 0, 0, 0, 0, 0, 1] rfl
  rcases @wordsOf_spec 8 [0, 0, 0, 0, 0, 0, 0, 0, 0, 0, 0, 0, 0, 0, 0, 1] rfl with
    ⟨eight, small, written⟩
  have inside := (isWrittenRight_iff_inside eight small written).mp right 0 7 (by decide +kernel)
  exact absurd inside.1 (Nat.lt_irrefl 0)

end DnsCodec

end MatterJs.General
