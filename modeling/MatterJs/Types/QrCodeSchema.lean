import MatterJs.General.DataWriter
import MatterJs.General.MatterError
import MatterJs.General.ParseInt

/-! The data of a QR code of version 1: the bits that stand for a text, and the bytes they are
packed into. -/

namespace MatterJs.Types

open General

namespace QrCodeSchema

def ALPHABET : List Char := "0123456789ABCDEFGHIJKLMNOPQRSTUVWXYZ $%*+-./:".toList

def getCode (char : Char) : Except MatterError Nat :=
  match ALPHABET.idxOf? char with
  | some code => .ok code
  | none => .error (.unexpectedDataError s!"Invalid character {char}")

/-- `value.toString(2).padStart(width, "0")` -/
def bits (width value : Nat) : List Char := padStart width (Nat.toDigits 2 value)

/-- The loop over the characters from the index on. Something is behind the next two of them
exactly where `index < length - 2`. -/
def pairBits : List Char → Except MatterError (List Char)
  | [] => .ok []
  | [char] => do
    let code ← getCode char
    return bits 11 (45 * code + 0)
  | char :: next :: others => do
    let code ← getCode char
    let nextCode ← (if others = [] then .ok 0 else getCode next)
    let following ← pairBits others
    return bits 11 (45 * code + nextCode) ++ following

def bytePadding (remainingBytes : Nat) : List Char :=
  (List.range remainingBytes).flatMap fun i =>
    if i % 2 = 0 then "11101100".toList else "00010001".toList

/-- What `bitStringBuilder` holds when it is converted to bytes -/
def bitString (data : List Char) : Except MatterError (List Char) := do
  let pairs ← pairBits data
  let written := "0010".toList ++ bits 9 data.length ++ pairs ++ "0000".toList
  let padded := written ++ List.replicate (8 - written.length % 8) '0'
  return padded ++ bytePadding (19 - padded.length / 8)

/-- `dataBytes` of `encodeInternal`, where NaN is stored as 0 -/
def dataBytes (data : List Char) : Except MatterError Bytes := do
  let text ← bitString data
  return (List.range 19).map fun i =>
    .ofNat ((parseInt ((text.drop (i * 8)).take 8) 2).getD 0).toNat

def readBits (width : Nat) (text : List Char) : Option (Nat × List Char) :=
  if text.length < width then none
  else some (Nat.ofDigitChars 2 (text.take width) 0, text.drop width)

/-- The characters of an alphanumeric segment, of which so many are left: 11 bits for each pair
and 6 for a single one. -/
def readCharacters : Nat → List Char → Option (List Char)
  | 0, _ => some []
  | 1, text => do
    let (code, _) ← readBits 6 text
    return [← ALPHABET[code]?]
  | count + 2, text => do
    let (value, text) ← readBits 11 text
    let first ← ALPHABET[value / 45]?
    let second ← ALPHABET[value % 45]?
    let others ← readCharacters count text
    return first :: second :: others

/-- Reads an alphanumeric segment of version 1: its mode, the number of characters, and these. -/
def readSegment (text : List Char) : Option (List Char) := do
  let (mode, text) ← readBits 4 text
  let (count, text) ← readBits 9 text
  if mode = 2 then readCharacters count text else none

/-- A text that version 1 has room for at its only error correction level -/
structure QrText where
  data : List Char
  inAlphabet : ∀ char ∈ data, char ∈ ALPHABET
  short : data.length ≤ 25

def ReadsBack (text : QrText) : Prop :=
  ∃ bytes, dataBytes text.data = .ok bytes ∧
    readSegment (bytes.flatMap fun byte => bits 8 byte.toNat) = some text.data

/-- The last character is one that the loop keeps: in a pair it is taken for `0`, and alone its
45-fold is written in five bits more than are read. -/
def LastSurvives (data : List Char) : Prop :=
  ∀ last ∈ data.getLast?,
    if data.length % 2 = 0 then last = '0' else last = '0' ∨ last = '1' ∨ last = '2'

instance (data : List Char) : Decidable (LastSurvives data) := by
  unfold LastSurvives
  exact Option.decidableForallMem data.getLast?

/-! ## The pairs -/

variable {char : Char} {data rest : List Char}

theorem getCode_of_mem (inAlphabet : char ∈ ALPHABET) :
    ∃ code < 45, getCode char = .ok code ∧ ALPHABET[code]? = some char := by
  cases found : ALPHABET.idxOf? char with
  | none => exact absurd inAlphabet (List.idxOf?_eq_none_iff.mp found)
  | some code =>
    rcases List.idxOf?_eq_some_iff.mp found with ⟨small, same, _⟩
    refine ⟨code, small, ?_, ?_⟩
    · rw [getCode, found]
    · rw [List.getElem?_eq_getElem small, same]

theorem readBits_append {front : List Char} {width value limit : Nat}
    (isBits : IsBits front width value) (inside : width ≤ limit) :
    readBits width ((front ++ rest).take limit) = some (value, rest.take (limit - width)) := by
  have length := isBits.length
  have enough : ¬((front ++ rest).take limit).length < width := by
    rw [List.length_take, List.length_append]
    omega
  have behind : ((front ++ rest).take limit).drop width = rest.take (limit - width) := by
    rw [List.drop_take, List.drop_left' length]
  rw [readBits, if_neg enough, List.take_take, Nat.min_eq_left inside, List.take_left' length,
    isBits.isNumber, behind]

theorem isBits_pair {code next : Nat} (small : code < 45) (nextSmall : next < 45) :
    IsBits (bits 11 (45 * code + next)) 11 (45 * code + next) :=
  padStart_isBits (by omega) (by decide)

theorem readCharacters_pair {code next limit : Nat} (small : code < 45) (nextSmall : next < 45)
    (inside : 11 ≤ limit) (count : Nat) :
    readCharacters (count + 2) ((bits 11 (45 * code + next) ++ rest).take limit) = do
      let first ← ALPHABET[code]?
      let second ← ALPHABET[next]?
      let others ← readCharacters count (rest.take (limit - 11))
      return first :: second :: others := by
  have quotient : (45 * code + next) / 45 = code := by omega
  have remainder : (45 * code + next) % 45 = next := by omega
  rw [readCharacters, readBits_append (isBits_pair small nextSmall) inside]
  change (do let first ← ALPHABET[(45 * code + next) / 45]?; _) = _
  rw [quotient, remainder]

theorem readCharacters_single {code limit : Nat} (small : code < 45) (inside : 6 ≤ limit) :
    readCharacters 1 ((bits 11 (45 * code + 0) ++ rest).take limit) =
      (ALPHABET[45 * code / 32]?).map ([·]) := by
  have isBits := @isBits_pair code 0 small (by decide)
  have front : IsBits ((bits 11 (45 * code + 0)).take 6) 6 (45 * code / 32) := by
    have length := isBits.length
    have split := isBits.isNumber
    have behind : IsBinary ((bits 11 (45 * code + 0)).drop 6) := fun char member =>
      isBits.isBinary char (List.mem_of_mem_drop member)
    rw [← List.take_append_drop 6 (bits 11 (45 * code + 0)), Nat.ofDigitChars_append] at split
    have shifted := ofDigitChars_div behind
      (Nat.ofDigitChars 2 ((bits 11 (45 * code + 0)).take 6) 0)
    rw [split, List.length_drop, length] at shifted
    constructor
    · rw [List.length_take, length]
      rfl
    · intro char member
      exact isBits.isBinary char (List.mem_of_mem_take member)
    · exact shifted.symm
  rw [readCharacters, ← List.take_append_drop 6 (bits 11 (45 * code + 0)), List.append_assoc,
    readBits_append front inside]
  cases read : ALPHABET[45 * code / 32]? with
  | none => simp [read]
  | some char => simp [read]

theorem single_iff : ∀ code < 45, ALPHABET[45 * code / 32]? = ALPHABET[code]? ↔
    ALPHABET[code]? = some '0' ∨ ALPHABET[code]? = some '1' ∨ ALPHABET[code]? = some '2' := by
  decide +kernel

theorem lastSurvives_cons_cons {next : Char} {others : List Char} (notEmpty : others ≠ []) :
    LastSurvives (char :: next :: others) ↔ LastSurvives others := by
  have parity : (char :: next :: others).length % 2 = others.length % 2 := by
    simp only [List.length_cons]
    omega
  rw [LastSurvives, LastSurvives, parity, List.getLast?_cons_cons]
  cases others with
  | nil => exact absurd rfl notEmpty
  | cons => rw [List.getLast?_cons_cons]

/-- What the loop writes for the characters of a text, and when they are read back -/
structure Pairs (data pairs : List Char) : Prop where
  length : pairs.length = 11 * ((data.length + 1) / 2)
  isBinary : IsBinary pairs
  read_iff : ∀ rest limit, 11 * (data.length / 2) + 6 * (data.length % 2) ≤ limit →
    (readCharacters data.length ((pairs ++ rest).take limit) = some data ↔ LastSurvives data)

theorem pairs_single (inAlphabet : char ∈ ALPHABET) :
    ∃ pairs, pairBits [char] = .ok pairs ∧ Pairs [char] pairs := by
  rcases getCode_of_mem inAlphabet with ⟨code, small, isCode, isChar⟩
  have isBits := @isBits_pair code 0 small (by decide)
  have survives : LastSurvives [char] ↔ char = '0' ∨ char = '1' ∨ char = '2' := by
    simp [LastSurvives]
  refine ⟨bits 11 (45 * code + 0), ?_, by simpa using isBits.length, isBits.isBinary, ?_⟩
  · rw [pairBits, isCode]
    rfl
  · intro rest limit inside
    have kept := single_iff code small
    rw [isChar] at kept
    simp only [Option.some.injEq] at kept
    rw [List.length_singleton, readCharacters_single small (by simpa using inside),
      survives, ← kept,
      Option.map_eq_some_iff]
    constructor
    · rintro ⟨read, same, isSingle⟩
      rw [same, List.singleton_inj.mp isSingle]
    · intro same
      exact ⟨char, same, rfl⟩

theorem pairs_last {next : Char} (inAlphabet : char ∈ ALPHABET) :
    ∃ pairs, pairBits [char, next] = .ok pairs ∧ Pairs [char, next] pairs := by
  rcases getCode_of_mem inAlphabet with ⟨code, small, isCode, isChar⟩
  have isBits := @isBits_pair code 0 small (by decide)
  have survives : LastSurvives [char, next] ↔ next = '0' := by
    simp [LastSurvives]
  refine ⟨bits 11 (45 * code + 0), ?_, by simpa using isBits.length, isBits.isBinary, ?_⟩
  · rw [pairBits, isCode]
    change Except.ok (_ ++ []) = _
    rw [List.append_nil]
  · intro rest limit inside
    rw [survives]
    change readCharacters (0 + 2) _ = _ ↔ _
    rw [readCharacters_pair small (by decide) (by simpa using inside), isChar]
    change some [char, '0'] = _ ↔ _
    simp [eq_comm]

theorem pairs_cons {next : Char} {others pairs : List Char} (inAlphabet : char ∈ ALPHABET)
    (nextInAlphabet : next ∈ ALPHABET) (notEmpty : others ≠ [])
    (writes : pairBits others = .ok pairs) (isPairs : Pairs others pairs) :
    ∃ pairs, pairBits (char :: next :: others) = .ok pairs ∧
      Pairs (char :: next :: others) pairs := by
  rcases getCode_of_mem inAlphabet with ⟨code, small, isCode, isChar⟩
  rcases getCode_of_mem nextInAlphabet with ⟨nextCode, nextSmall, isNextCode, isNext⟩
  have isBits := isBits_pair small nextSmall
  have length : (char :: next :: others).length = others.length + 2 := rfl
  refine ⟨bits 11 (45 * code + nextCode) ++ pairs, ?_, ?_, ?_, ?_⟩
  · rw [pairBits, isCode, if_neg notEmpty, isNextCode, writes]
    rfl
  · rw [List.length_append, isBits.length, isPairs.length]
    omega
  · intro bit member
    rcases List.mem_append.mp member with first | second
    · exact isBits.isBinary bit first
    · exact isPairs.isBinary bit second
  · intro rest limit inside
    rw [length] at inside ⊢
    have behind := isPairs.read_iff rest (limit - 11) (by omega)
    rw [lastSurvives_cons_cons notEmpty, ← behind, List.append_assoc,
      readCharacters_pair small nextSmall (by omega), isChar, isNext]
    cases readCharacters others.length ((pairs ++ rest).take (limit - 11)) with
    | none => exact iff_of_false nofun nofun
    | some read =>
      simp

theorem pairBits_pairs : ∀ data : List Char, (∀ char ∈ data, char ∈ ALPHABET) →
    ∃ pairs, pairBits data = .ok pairs ∧ Pairs data pairs
  | [], _ => by
    refine ⟨[], rfl, rfl, nofun, ?_⟩
    intro rest limit inside
    exact iff_of_true rfl nofun
  | [char], inAlphabet => pairs_single (inAlphabet char (by simp))
  | [char, next], inAlphabet => pairs_last (inAlphabet char (by simp))
  | char :: next :: third :: others, inAlphabet => by
    rcases pairBits_pairs (third :: others) fun char member => inAlphabet char (by simp_all) with
      ⟨pairs, writes, isPairs⟩
    exact pairs_cons (inAlphabet char (by simp)) (inAlphabet next (by simp))
      (List.cons_ne_nil _ _) writes isPairs

/-! ## The bytes -/

theorem flatMap_chunks (text : List Char) (count : Nat) :
    ((List.range count).flatMap fun i => (text.drop (i * 8)).take 8) = text.take (count * 8) := by
  induction count with
  | zero => simp
  | succ count induction =>
    rw [List.range_succ, List.flatMap_append, induction, List.flatMap_singleton,
      Nat.succ_mul, List.take_add]

theorem bits_byte {text : List Char} (isBinary : IsBinary text) (length : text.length = 8) :
    bits 8 (UInt8.ofNat ((parseInt text 2).getD 0).toNat).toNat = text := by
  have notEmpty : text ≠ [] := List.ne_nil_of_length_pos (by omega)
  have fits : Nat.ofDigitChars 2 text 0 < 2 ^ 8 := by
    apply (Nat.div_eq_zero_iff_lt (Nat.two_pow_pos _)).mp
    rw [← length, ofDigitChars_div isBinary]
  have whole := padStart_ofDigitChars isBinary notEmpty
  rw [length] at whole
  rw [parseInt_of_isBinary isBinary notEmpty, Option.getD_some, Int.toNat_natCast,
    UInt8.toNat_ofNat',
    Nat.mod_eq_of_lt fits, bits, whole]

theorem isBinary_bytePadding (count : Nat) : IsBinary (bytePadding count) := by
  have even : IsBinary "11101100".toList := by
    simp [IsBinary]
  have odd : IsBinary "00010001".toList := by
    simp [IsBinary]
  intro bit member
  rcases List.mem_flatMap.mp member with ⟨i, _, inByte⟩
  split at inByte
  · exact even bit inByte
  · exact odd bit inByte

theorem length_bytePadding (count : Nat) : (bytePadding count).length = 8 * count := by
  have each : ∀ i ∈ List.range count,
      (if i % 2 = 0 then "11101100".toList else "00010001".toList).length = 8 := by
    intro i _
    split <;> rfl
  rw [bytePadding, List.length_flatMap, List.map_congr_left each, List.map_const',
    List.sum_replicate, List.length_range]
  exact Nat.mul_comm _ _

/-- The text the bytes are made of, and what is in it behind the length -/
structure Written (data text pairs : List Char) : Prop where
  isBinary : IsBinary text
  enough : 152 ≤ text.length
  begins : ∃ rest, text = "0010".toList ++ (bits 9 data.length ++ (pairs ++ rest))

theorem bitString_written {pairs : List Char} (short : data.length < 2 ^ 9)
    (writes : pairBits data = .ok pairs) (isBinary : IsBinary pairs) :
    ∃ text, bitString data = .ok text ∧ Written data text pairs := by
  have mode : IsBinary "0010".toList := by
    simp [IsBinary]
  have length := @padStart_isBits data.length 9 short (by decide)
  have joins {first second : List Char} (isFirst : IsBinary first) (isSecond : IsBinary second) :
      IsBinary (first ++ second) :=
    List.forall_mem_append.mpr ⟨isFirst, isSecond⟩
  have zeros (count : Nat) : IsBinary (List.replicate count '0') :=
    fun bit member => Or.inl (List.eq_of_mem_replicate member)
  rw [bitString, writes]
  refine ⟨_, rfl, ?_, ?_, ?_⟩
  · apply joins _ (isBinary_bytePadding _)
    apply joins _ (zeros _)
    exact joins (joins (joins mode length.isBinary) isBinary) (zeros 4)
  · rw [List.length_append, length_bytePadding]
    omega
  · rw [List.append_assoc, List.append_assoc, List.append_assoc, List.append_assoc]
    exact ⟨_, rfl⟩

theorem dataBytes_bits {text pairs : List Char} (builds : bitString data = .ok text)
    (written : Written data text pairs) :
    ∃ bytes, dataBytes data = .ok bytes ∧
      (bytes.flatMap fun byte => bits 8 byte.toNat) = text.take 152 := by
  rw [dataBytes, builds]
  refine ⟨_, rfl, ?_⟩
  rw [List.flatMap_map, ← flatMap_chunks text 19]
  apply List.flatMap_congr
  intro i member
  have inside := List.mem_range.mp member
  have enough := written.enough
  apply bits_byte
  · intro bit inChunk
    exact written.isBinary bit (List.mem_of_mem_drop (List.mem_of_mem_take inChunk))
  · rw [List.length_take, List.length_drop]
    omega

theorem readsBack_iff_lastSurvives (inAlphabet : ∀ char ∈ data, char ∈ ALPHABET)
    (short : data.length ≤ 25) :
    (∃ bytes, dataBytes data = .ok bytes ∧
      readSegment (bytes.flatMap fun byte => bits 8 byte.toNat) = some data) ↔
      LastSurvives data := by
  rcases pairBits_pairs data inAlphabet with ⟨pairs, writes, isPairs⟩
  rcases bitString_written (by omega) writes isPairs.isBinary with ⟨text, builds, written⟩
  rcases dataBytes_bits builds written with ⟨bytes, packs, unpacks⟩
  rcases written.begins with ⟨rest, begins⟩
  have mode : IsBits "0010".toList 4 2 := @padStart_isBits 2 4 (by decide) (by decide)
  have count := @padStart_isBits data.length 9 (by omega) (by decide)
  have reads : readSegment (text.take 152) =
      readCharacters data.length ((pairs ++ rest).take 139) := by
    rw [begins, readSegment, readBits_append mode (by decide)]
    change (do let (count, text) ← readBits 9 _; if 2 = 2 then _ else _) = _
    rw [bits, readBits_append count (by decide)]
    rfl
  rw [← isPairs.read_iff rest 139 (by omega), ← reads, ← unpacks]
  constructor
  · intro back
    rcases back with ⟨others, same, read⟩
    rw [packs] at same
    rw [Except.ok.inj same]
    exact read
  · intro read
    exact ⟨bytes, packs, read⟩

/-- A text is read back exactly when its last character survives. -/
theorem QrText.segmentReadsBack_iff (text : QrText) : ReadsBack text ↔ LastSurvives text.data :=
  readsBack_iff_lastSurvives text.inAlphabet text.short

/-- Of `AB` the second character is lost. -/
theorem QrText.segmentReadsBack_false : ¬∀ text : QrText, ReadsBack text := by
  intro readsBack
  have isA : ALPHABET[10]? = some 'A' := by decide +kernel
  have isB : ALPHABET[11]? = some 'B' := by decide +kernel
  have inAlphabet : ∀ char ∈ ['A', 'B'], char ∈ ALPHABET :=
    List.forall_mem_cons.mpr ⟨List.mem_of_getElem? isA,
      List.forall_mem_singleton.mpr (List.mem_of_getElem? isB)⟩
  have survives : LastSurvives ['A', 'B'] :=
    (readsBack_iff_lastSurvives inAlphabet (by decide)).mp
      (readsBack ⟨['A', 'B'], inAlphabet, by decide⟩)
  simp [LastSurvives] at survives

/-- The text of the test comes back, as it ends with `0`. -/
example : LastSurvives "MT:6FCJ142C00KA0648G00".toList := by
  simp [LastSurvives]

end QrCodeSchema

end MatterJs.Types
