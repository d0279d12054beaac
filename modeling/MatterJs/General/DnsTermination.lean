import MatterJs.General.DnsCodec

namespace MatterJs.General.DnsCodec

open Consumption
open DataReader (source)

/-! Decoding a DNS message comes to an end: every item of a name takes a byte, and every
pointer followed takes away one of the offsets that pointers can still lead to. -/

open DataReader Keeps

variable {α β : Type}

/-! ## The steps of a decoder -/

theorem keeps_read {read : DataReader → Except MatterError (α × DataReader)}
    (keeps : Keeps (source .big) (reading read)) :
    Keeps (source .big) (DnsCodec.read read) :=
  keeps.mapFailure _

theorem advances_readUInt8 : Advances (source .big) (read readUInt8) :=
  (advances_readUInt (by decide)).mapFailure _

theorem keeps_readUtf8String (length : Nat) :
    Keeps (source .big) (take (readUtf8String · length)) := by
  intro reader value next usable run
  cases run
  exact keeps_readByteArray length reader _ _ usable rfl

theorem keeps_inspect (property : DataReader → α) :
    Keeps (source .big) (inspect property) := by
  intro reader value next usable run
  cases run
  exact ⟨usable, Nat.le_refl _⟩

theorem onReader_eq_ok_iff {other reader next : DataReader} {decoder : Decoder α} {value : α} :
    onReader other decoder reader = .ok (value, next) ↔
      next = reader ∧ ∃ last, decoder other = .ok (value, last) := by
  rw [onReader]
  cases decoder other with
  | error stop => exact iff_of_false nofun nofun
  | ok result =>
    constructor
    · intro run
      cases run
      exact ⟨rfl, result.2, rfl⟩
    · rintro ⟨rfl, last, run⟩
      cases run
      rfl

theorem keeps_onReader (other : DataReader) (decoder : Decoder α) :
    Keeps (source .big) (onReader other decoder) := by
  intro reader value next usable run
  rw [(onReader_eq_ok_iff.mp run).1]
  exact ⟨usable, Nat.le_refl _⟩

/-- Neither amount of fuel is too little, and both give the same. -/
abbrev Settled (one other : Decoder α) (reader : DataReader) : Prop :=
  Agrees .outOfFuel one other reader

theorem settled_read (action : DataReader → Except MatterError (α × DataReader))
    (reader : DataReader) : Settled (read action) (read action) reader := by
  have notFuel : ∀ error, Stop.thrown error ≠ .outOfFuel := fun _ => nofun
  exact Agrees.mapFailure _ notFuel reader

theorem settled_take (action : DataReader → α × DataReader) (reader : DataReader) :
    Settled (take action) (take action) reader := by
  have notFuel : ∀ error, Stop.thrown error ≠ .outOfFuel := fun _ => nofun
  exact Agrees.mapFailure _ notFuel reader

theorem settled_pure (value : α) (reader : DataReader) :
    Settled (pure value) (pure value) reader :=
  Agrees.refl nofun

theorem settled_inspect (property : DataReader → α) (reader : DataReader) :
    Settled (inspect property) (inspect property) reader :=
  Agrees.refl nofun

theorem settled_throwing (error : MatterError) (reader : DataReader) :
    Settled (throwing error : Decoder α) (throwing error) reader :=
  Agrees.refl nofun

theorem settled_onReader {other : DataReader} {one another : Decoder α}
    (settled : Settled one another other) (reader : DataReader) :
    Settled (onReader other one) (onReader other another) reader := by
  constructor
  · have avoids := settled.avoids
    rw [onReader]
    cases run : one other with
    | error stop =>
      intro same
      cases same
      exact avoids run
    | ok result => exact nofun
  · rw [onReader, onReader, settled.same]

section Names

variable {message : Bytes} {visited : List Nat}

theorem advances_decodeQNameItem (decodeQName : List Nat → Decoder (List Char))
    (qNameItems : List (List Char)) :
    Advances (source .big) (decodeQNameItem message decodeQName visited qNameItems) := by
  apply Advances.bind advances_readUInt8
  intro itemLength
  apply bind (keeps_inspect _)
  intro remaining
  split
  · exact pure _
  · split
    · split
      · exact throw _
      · apply bind advances_readUInt8.keeps
        intro low
        dsimp only
        split
        · exact throw _
        · split
          · exact throw _
          · exact (keeps_onReader _ _).bind fun name => pure _
    · split
      · exact throw _
      · exact (keeps_readUtf8String _).bind fun item => pure _

theorem setOffset_eq_ok {reader next : DataReader} {offset : Nat}
    (sets : reader.setOffset offset = .ok next) :
    next.endian = reader.endian ∧ next.buffer = reader.buffer ∧ next.offset = offset := by
  rw [setOffset] at sets
  split at sets
  · cases sets
    exact ⟨rfl, rfl, rfl⟩
  · cases sets

theorem settled_decodeQNameItem {one other : List Nat → Decoder (List Char)}
    (nested : ∀ next, next.endian = .big → next.buffer = message →
      next.offset < message.length → Settled (one visited) (other visited) next)
    (qNameItems : List (List Char)) (reader : DataReader) :
    Settled (decodeQNameItem message one visited qNameItems)
      (decodeQNameItem message other visited qNameItems) reader := by
  apply Agrees.bind (settled_read _ _)
  intro itemLength afterLength _
  apply Agrees.bind (settled_inspect _ _)
  intro remaining _ _
  split
  · exact settled_pure _ _
  · split
    · split
      · exact settled_throwing _ _
      · apply Agrees.bind (settled_read _ _)
        intro low afterLow _
        dsimp only
        split
        · exact settled_throwing _ _
        · rename_i inBounds
          split
          · exact settled_throwing _ _
          · rename_i messageReader sets
            rcases setOffset_eq_ok sets with ⟨big, sameMessage, atIndex⟩
            have isNested := nested messageReader big sameMessage
              (by rw [atIndex]; exact Nat.not_le.mp inBounds)
            apply Agrees.bind (settled_onReader isNested _)
            intro name last _
            exact settled_pure _ _
    · split
      · exact settled_throwing _ _
      · apply Agrees.bind (settled_take _ _)
        intro item last _
        exact settled_pure _ _

/-- The offsets of the message at which no name has begun yet. -/
def unvisited (message : Bytes) (visited : List Nat) : Finset Nat :=
  Finset.range message.length \ visited.toFinset

theorem card_unvisited_append_lt {offset : Nat} (inBounds : offset < message.length)
    (isNew : offset ∉ visited) :
    (unvisited message (visited ++ [offset])).card < (unvisited message visited).card := by
  apply Finset.card_lt_card
  rw [Finset.ssubset_iff_of_subset]
  · refine ⟨offset, ?_, ?_⟩
    · simp [unvisited, inBounds, isNew]
    · simp [unvisited]
  · intro other member
    simp only [unvisited, Finset.mem_sdiff, List.mem_toFinset, List.mem_append, not_or] at member ⊢
    exact ⟨member.1, member.2.1⟩

theorem settled_decodeQName_succ {fuel otherFuel : Nat} {reader : DataReader}
    (big : reader.endian = .big) (enough : reader.remainingBytes.length < fuel)
    (otherEnough : reader.remainingBytes.length < otherFuel)
    (nested : reader.offset ∉ visited → ∀ next, next.endian = .big → next.buffer = message →
      next.offset < message.length →
      Settled (decodeQName message fuel (visited ++ [reader.offset]))
        (decodeQName message otherFuel (visited ++ [reader.offset])) next) :
    Settled (decodeQName message (fuel + 1) visited)
      (decodeQName message (otherFuel + 1) visited) reader := by
  rw [decodeQName]
  apply Agrees.bind (settled_inspect _ _)
  intro offset after run
  cases run
  split
  · exact settled_throwing _ _
  · rename_i notVisited
    rw [List.contains_iff_mem] at notVisited
    have items := @Agrees.loop DataReader UInt8 Stop (List (List Char)) (source .big) .outOfFuel
      (decodeQNameItem message (decodeQName message fuel) (visited ++ [reader.offset])) []
      (decodeQNameItem message (decodeQName message otherFuel) (visited ++ [reader.offset]))
      (fun qNameItems state following next usable run =>
        advances_decodeQNameItem _ qNameItems state _ next usable run)
      fuel otherFuel reader big enough otherEnough
      (fun qNameItems after _ _ => settled_decodeQNameItem (nested notVisited) qNameItems after)
    exact items.bind fun qNameItems last _ => settled_pure _ _

theorem settled_decodeQName_nested {left fuel otherFuel : Nat} {reader : DataReader}
    (big : reader.endian = .big) (sameMessage : reader.buffer = message)
    (inBounds : reader.offset < message.length)
    (bound : (unvisited message visited).card ≤ left) (enough : message.length + left < fuel)
    (otherEnough : message.length + left < otherFuel) :
    Settled (decodeQName message fuel visited) (decodeQName message otherFuel visited)
      reader := by
  induction left generalizing visited fuel otherFuel reader with
  | zero =>
    cases fuel with
    | zero => exact absurd enough (Nat.not_lt_zero _)
    | succ fuel =>
      cases otherFuel with
      | zero => exact absurd otherEnough (Nat.not_lt_zero _)
      | succ otherFuel =>
        have isVisited : reader.offset ∈ visited := by
          by_contra isNew
          have fewer := card_unvisited_append_lt inBounds isNew
          omega
        apply Agrees.bind (settled_inspect _ _)
        intro offset after run
        cases run
        rw [if_pos (List.contains_iff_mem.mpr isVisited),
          if_pos (List.contains_iff_mem.mpr isVisited)]
        exact settled_throwing _ _
  | succ left induction =>
    cases fuel with
    | zero => exact absurd enough (Nat.not_lt_zero _)
    | succ fuel =>
      cases otherFuel with
      | zero => exact absurd otherEnough (Nat.not_lt_zero _)
      | succ otherFuel =>
        have remaining := remainingBytes_length reader
        rw [sameMessage] at remaining
        apply settled_decodeQName_succ big
        · omega
        · omega
        · intro isNew next nextBig nextMessage nextInBounds
          have fewer := card_unvisited_append_lt inBounds isNew
          exact induction nextBig nextMessage nextInBounds (by omega) (by omega) (by omega)

def fuelFor (message : Bytes) : Nat := 2 * message.length + 2

theorem settled_decodeQName {fuel otherFuel : Nat} {reader : DataReader}
    (big : reader.endian = .big) (shorter : reader.remainingBytes.length ≤ message.length)
    (enough : fuelFor message ≤ fuel) (otherEnough : fuelFor message ≤ otherFuel) :
    Settled (decodeQName message fuel []) (decodeQName message otherFuel []) reader := by
  rw [fuelFor] at enough otherEnough
  cases fuel with
  | zero => exact absurd enough (Nat.not_succ_le_zero _)
  | succ fuel =>
    cases otherFuel with
    | zero => exact absurd otherEnough (Nat.not_succ_le_zero _)
    | succ otherFuel =>
      apply settled_decodeQName_succ big (by omega) (by omega)
      intro _ next nextBig nextMessage inBounds
      have bound : (unvisited message ([] ++ [reader.offset])).card ≤ message.length := by
        calc (unvisited message ([] ++ [reader.offset])).card
            ≤ (Finset.range message.length).card := Finset.card_le_card Finset.sdiff_subset
          _ = message.length := Finset.card_range _
      exact settled_decodeQName_nested nextBig nextMessage inBounds bound (by omega) (by omega)

theorem keeps_decodeQName (fuel : Nat) :
    Keeps (source .big) (decodeQName message fuel visited) := by
  cases fuel with
  | zero => exact Keeps.throw _
  | succ fuel =>
    apply Keeps.bind (keeps_inspect _)
    intro offset
    split
    · exact Keeps.throw _
    · apply Keeps.bind
      · exact Keeps.loop (fun qNameItems => (advances_decodeQNameItem _ qNameItems).keeps) _
      · exact fun qNameItems => Keeps.pure _

end Names

/-! ## Records and messages -/

variable {message : Bytes} {fuel otherFuel : Nat}

theorem keeps_readUInt16 : Keeps (source .big) (read readUInt16) :=
  keeps_read (advances_readUInt (by decide)).keeps

theorem keeps_readUInt32 : Keeps (source .big) (read readUInt32) :=
  keeps_read (advances_readUInt (by decide)).keeps

/-- A decoder that any enough fuel does for, wherever it is on readers of the message. -/
structure SettledBelow (message : Bytes) (decoder : Nat → Decoder α) : Prop where
  settled : ∀ {fuel otherFuel reader}, reader.endian = .big →
    reader.remainingBytes.length ≤ message.length → fuelFor message ≤ fuel →
    fuelFor message ≤ otherFuel → Settled (decoder fuel) (decoder otherFuel) reader
  keeps : ∀ fuel, Keeps (source .big) (decoder fuel)

namespace SettledBelow

theorem pure (value : α) : SettledBelow message fun _ => (Pure.pure value : Decoder α) where
  settled _ _ _ _ := settled_pure _ _
  keeps _ := Keeps.pure _

theorem read {action : DataReader → Except MatterError (α × DataReader)}
    (keeps : Keeps (source .big) (DnsCodec.read action)) :
    SettledBelow message fun _ => DnsCodec.read action where
  settled _ _ _ _ := settled_read _ _
  keeps _ := keeps

theorem bind {decoder : Nat → Decoder α} {next : Nat → α → Decoder β}
    (first : SettledBelow message decoder)
    (second : ∀ value, SettledBelow message fun fuel => next fuel value) :
    SettledBelow message fun fuel => decoder fuel >>= next fuel where
  settled {fuel} {otherFuel} {reader} big shorter enough otherEnough := by
    apply Agrees.bind (first.settled big shorter enough otherEnough)
    intro value after run
    have kept := first.keeps fuel reader value after big run
    exact (second value).settled kept.1 (Nat.le_trans kept.2 shorter) enough otherEnough
  keeps fuel := (first.keeps fuel).bind fun value => (second value).keeps fuel

theorem map {decoder : Nat → Decoder α} (transform : α → β)
    (settled : SettledBelow message decoder) :
    SettledBelow message fun fuel => transform <$> decoder fuel := by
  exact settled.bind fun value => pure _

theorem onValue {decoder : Nat → Decoder α} {valueBytes : Bytes}
    (settled : SettledBelow message decoder) (shorter : valueBytes.length ≤ message.length) :
    SettledBelow message fun fuel => onReader (.new valueBytes .big) (decoder fuel) where
  settled _ _ enough otherEnough := by
    apply settled_onReader
    exact settled.settled rfl (by rw [remainingBytes_new]; exact shorter) enough otherEnough
  keeps _ := keeps_onReader _ _

theorem times {decoder : Nat → Decoder α} (settled : SettledBelow message decoder)
    (count : Nat) : SettledBelow message fun fuel => DnsCodec.times (decoder fuel) count := by
  induction count with
  | zero => exact pure _
  | succ count induction =>
    exact settled.bind fun first => induction.bind fun others => pure _

theorem readByteArray {length : Nat} {next : Nat → Bytes → Decoder β}
    (second : ∀ bytes, bytes.length ≤ message.length →
      SettledBelow message fun fuel => next fuel bytes)
    (keeps : ∀ fuel bytes, Keeps (source .big) (next fuel bytes)) :
    SettledBelow message fun fuel => take (readByteArray · length) >>= next fuel where
  settled {fuel} {otherFuel} {reader} big shorter enough otherEnough := by
    apply Agrees.bind (settled_take _ _)
    intro bytes after run
    have taken := mapFailure_eq_ok_iff.mp run
    have bound : bytes.length ≤ message.length := by
      cases taken
      refine Nat.le_trans ?_ shorter
      exact List.length_take_le' _ _
    have kept := keeps_readByteArray length reader bytes after big taken
    exact (second bytes bound).settled kept.1 (Nat.le_trans kept.2 shorter) enough otherEnough
  keeps fuel := by
    apply Keeps.bind _ (keeps fuel)
    exact (keeps_readByteArray length).mapFailure _

theorem decodeQName : SettledBelow message fun fuel => DnsCodec.decodeQName message fuel [] where
  settled := settled_decodeQName
  keeps fuel := keeps_decodeQName fuel

end SettledBelow

theorem settled_decodeQuery : SettledBelow message fun fuel => decodeQuery fuel message :=
  SettledBelow.decodeQName.bind fun _ => (SettledBelow.read keeps_readUInt16).bind fun _ =>
    (SettledBelow.read keeps_readUInt16).bind fun _ => .pure _

theorem settled_decodeSrvRecord :
    SettledBelow message fun fuel => decodeSrvRecord fuel message :=
  (SettledBelow.read keeps_readUInt16).bind fun _ =>
    (SettledBelow.read keeps_readUInt16).bind fun _ =>
      (SettledBelow.read keeps_readUInt16).bind fun _ =>
        SettledBelow.decodeQName.bind fun _ => .pure _

variable (length : Nat) (progress : Nat × List (List Char))

theorem progresses_decodeTxtEntry (following : Nat × List (List Char)) {reader next : DataReader}
    (big : reader.endian = .big)
    (run : decodeTxtEntry length progress reader = .ok (.yield following, next)) :
    next.endian = .big ∧ next.remainingBytes.length < reader.remainingBytes.length := by
  rw [decodeTxtEntry] at run
  split at run
  · have advances : Advances (source .big) (do
        let entryLength ← read readUInt8
        let entry ← take (readUtf8String · entryLength)
        return ForInStep.yield (progress.1 + (entryLength + 1), progress.2 ++ [entry])) :=
      advances_readUInt8.bind fun entryLength =>
        (keeps_readUtf8String entryLength).bind fun entry => pure _
    exact advances reader _ next big run
  · cases run

theorem settled_decodeTxtEntry (reader : DataReader) :
    Settled (decodeTxtEntry length progress) (decodeTxtEntry length progress) reader := by
  rw [decodeTxtEntry]
  split
  · apply Agrees.bind (settled_read _ _)
    intro entryLength afterLength _
    apply Agrees.bind (settled_take _ _)
    intro entry last _
    exact settled_pure _ _
  · exact settled_pure _ _

theorem keeps_decodeTxtEntry : Keeps (source .big) (decodeTxtEntry length progress) := by
  rw [decodeTxtEntry]
  split
  · exact advances_readUInt8.keeps.bind fun entryLength =>
      (keeps_readUtf8String entryLength).bind fun entry => pure _
  · exact pure _

theorem settled_decodeTxtRecord : SettledBelow message fun fuel => decodeTxtRecord fuel length where
  settled {fuel} {otherFuel} {reader} big shorter enough otherEnough := by
    rw [fuelFor] at enough otherEnough
    have entries := @Agrees.loop DataReader UInt8 Stop (Nat × List (List Char)) (source .big)
      .outOfFuel (decodeTxtEntry length) (0, []) (decodeTxtEntry length)
      (fun progress state following next usable run =>
        progresses_decodeTxtEntry length progress following usable run)
      fuel otherFuel reader big
      (show reader.remainingBytes.length < fuel by omega)
      (show reader.remainingBytes.length < otherFuel by omega)
      (fun progress after _ _ => settled_decodeTxtEntry length progress after)
    exact entries.bind fun result last _ => settled_pure _ _
  keeps fuel := by
    rw [decodeTxtRecord]
    exact (loop (fun progress => keeps_decodeTxtEntry length progress) _).bind fun result => pure _

theorem settled_decodeAaaaRecord : SettledBelow message fun _ => decodeAaaaRecord := by
  apply ((SettledBelow.read keeps_readUInt16).times 8).bind
  intro parts
  dsimp only
  split
  · exact .pure _
  · exact .pure _

theorem settled_decodeARecord : SettledBelow message fun _ => decodeARecord :=
  ((SettledBelow.read advances_readUInt8.keeps).times 4).bind fun _ => .pure _

theorem settled_decodeRecordValue {valueBytes : Bytes}
    (shorter : valueBytes.length ≤ message.length) (recordType : Nat) :
    SettledBelow message fun fuel => decodeRecordValue fuel message valueBytes recordType := by
  unfold decodeRecordValue
  by_cases known : recordType ∈ DnsRecordType.known
  · simp only [dif_pos known]
    split
    · exact (SettledBelow.decodeQName.onValue shorter).map _
    · split
      · exact (settled_decodeSrvRecord.onValue shorter).map _
      · split
        · exact ((settled_decodeTxtRecord _).onValue shorter).map _
        · split
          · exact (settled_decodeAaaaRecord.onValue shorter).map _
          · exact (settled_decodeARecord.onValue shorter).map _
  · simp only [dif_neg known]
    exact .pure _

theorem keeps_map {decoder : Decoder α} (transform : α → β)
    (keeps : Keeps (source .big) decoder) : Keeps (source .big) (transform <$> decoder) := by
  exact keeps.bind fun value => pure _

theorem keeps_decodeRecordValue (fuel : Nat) (valueBytes : Bytes) (recordType : Nat) :
    Keeps (source .big) (decodeRecordValue fuel message valueBytes recordType) := by
  unfold decodeRecordValue
  by_cases known : recordType ∈ DnsRecordType.known
  · simp only [dif_pos known]
    split
    · exact keeps_map _ (keeps_onReader _ _)
    · split
      · exact keeps_map _ (keeps_onReader _ _)
      · split
        · exact keeps_map _ (keeps_onReader _ _)
        · split
          · exact keeps_map _ (keeps_onReader _ _)
          · exact keeps_map _ (keeps_onReader _ _)
  · simp only [dif_neg known]
    exact pure _

theorem settled_decodeRecord : SettledBelow message fun fuel => decodeRecord fuel message :=
  SettledBelow.decodeQName.bind fun _ => (SettledBelow.read keeps_readUInt16).bind fun _ =>
    (SettledBelow.read keeps_readUInt16).bind fun _ =>
      (SettledBelow.read keeps_readUInt32).bind fun _ =>
        (SettledBelow.read keeps_readUInt16).bind fun _ =>
          SettledBelow.readByteArray
            (fun _ shorter => (settled_decodeRecordValue shorter _).bind fun _ => .pure _)
            (fun _ _ => (keeps_decodeRecordValue _ _ _).bind fun _ => pure _)

theorem settled_decodeMessage : SettledBelow message fun fuel => decodeMessage fuel message :=
  (SettledBelow.read keeps_readUInt16).bind fun _ =>
    (SettledBelow.read keeps_readUInt16).bind fun _ =>
      (SettledBelow.read keeps_readUInt16).bind fun _ =>
        (SettledBelow.read keeps_readUInt16).bind fun _ =>
          (SettledBelow.read keeps_readUInt16).bind fun _ =>
            (SettledBelow.read keeps_readUInt16).bind fun _ =>
              (settled_decodeQuery.times _).bind fun _ =>
                (settled_decodeRecord.times _).bind fun _ =>
                  (settled_decodeRecord.times _).bind fun _ =>
                    (settled_decodeRecord.times _).bind fun _ => .pure _

/-- Every byte string is decoded, to a message or to undefined: with twice as many nested
calls and rounds as it has bytes there is a result, and more of them do not change it. -/
theorem decode_terminates (message : Bytes) :
    ∃ result, ∀ fuel, fuelFor message ≤ fuel → decode fuel message = some result := by
  have settled {fuel : Nat} (enough : fuelFor message ≤ fuel) :
      Settled (decodeMessage (fuelFor message) message) (decodeMessage fuel message)
        (.new message .big) :=
    settled_decodeMessage.settled rfl (Nat.le_refl _) (Nat.le_refl _) enough
  cases run : decodeMessage (fuelFor message) message (.new message .big) with
  | ok decoded =>
    refine ⟨some decoded.1, fun fuel enough => ?_⟩
    rw [decode, ← (settled enough).same, run]
  | error stop =>
    cases stop with
    | outOfFuel => exact absurd run (settled (Nat.le_refl _)).avoids
    | thrown error =>
      refine ⟨none, fun fuel enough => ?_⟩
      rw [decode, ← (settled enough).same, run]

end MatterJs.General.DnsCodec
