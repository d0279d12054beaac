import MatterJs.Protocol.ExchangeManager
import MatterJs.Protocol.ReplayWindow

/-! What a packet that fails to decode does to the session it names. -/

namespace MatterJs.Protocol

open General MessageReceptionState

namespace SecureSession

def afterCounter (session : SecureSession) (messageCounter : Nat) : SecureSession :=
  { session with
    messageReceptionState :=
      (accept session.messageReceptionState messageCounter).getD
        session.messageReceptionState }

theorem afterCounter_unchanged_iff (session : SecureSession) (messageCounter : Nat) :
    (session.afterCounter messageCounter).messageReceptionState = session.messageReceptionState ↔
      accept session.messageReceptionState messageCounter = none := by
  constructor
  · intro unchanged
    cases accepts : accept session.messageReceptionState messageCounter with
    | none => rfl
    | some next =>
      have same : next = session.messageReceptionState := by
        simpa [afterCounter, accepts] using unchanged
      have refused := accept_remembers.refusesAccepted accepts
      rw [same, accepts] at refused
      cases refused
  · intro refused
    simp [afterCounter, refused]

theorem decode_afterCounter (decrypt : Decrypt) (session : SecureSession) (messageCounter : Nat) :
    (session.afterCounter messageCounter).decode decrypt = session.decode decrypt := rfl

theorem updateMessageCounter_of_accept {session : SecureSession} {messageCounter : Nat}
    {next : MessageReceptionState .encryptedWithoutRollover}
    (accepts : accept session.messageReceptionState messageCounter = some next) :
    session.updateMessageCounter messageCounter =
      .ok (session.afterCounter messageCounter) := by
  have afterState : session.afterCounter messageCounter =
      { session with messageReceptionState := next } := by
    simp [afterCounter, accepts]
  rw [afterState]
  unfold accept at accepts
  cases updates : session.messageReceptionState.updateMessageCounter messageCounter with
  | error error => simp [updates, Except.toOption] at accepts
  | ok updated =>
    rw [updates] at accepts
    cases accepts
    simp only [updateMessageCounter, updates]
    rfl

theorem updateMessageCounter_of_refuse {session : SecureSession} {messageCounter : Nat}
    (refuses : accept session.messageReceptionState messageCounter = none) :
    ∃ error, session.updateMessageCounter messageCounter = .error error := by
  unfold accept at refuses
  cases updates : session.messageReceptionState.updateMessageCounter messageCounter with
  | error error =>
    refine ⟨error, ?_⟩
    simp only [updateMessageCounter, updates]
    rfl
  | ok updated => simp [updates, Except.toOption] at refuses

end SecureSession

namespace ExchangeManager

theorem onCountedPacket_of_decode_error {decrypt : Decrypt} {messageBytes : Bytes}
    {packet : DecodedPacket} {session : SecureSession} {error : MatterError}
    (fails : session.decode decrypt packet (aadOf messageBytes packet) = .error error)
    (manager : ExchangeManager) (isDuplicate : Bool) :
    manager.onCountedPacket decrypt messageBytes packet (.secure session) isDuplicate =
      (manager, .error error) := by
  simp [onCountedPacket, Session.decode, fails]

theorem getSession_onMessage_of_decode_error {decrypt : Decrypt} {manager : ExchangeManager}
    {messageBytes : Bytes} {packet : DecodedPacket} {session : SecureSession}
    {error : MatterError}
    (decodes : MessageCodec.decodePacket messageBytes = .ok packet)
    (selects : manager.Selects packet.header session)
    (fails : session.decode decrypt packet (aadOf messageBytes packet) = .error error) :
    (onMessage decrypt manager messageBytes).1.sessionManager.getSession packet.header.sessionId =
      some (session.afterCounter packet.header.messageId) := by
  have found := selects.2.2
  have sameId : session.id = packet.header.sessionId :=
    manager.sessionManager.id_of_get found
  rw [onMessage_of_selects decodes selects]
  cases accepts : accept session.messageReceptionState packet.header.messageId with
  | some next =>
    have updates := SecureSession.updateMessageCounter_of_accept accepts
    have failsAfter := (congrFun (congrFun (SecureSession.decode_afterCounter decrypt
      session packet.header.messageId) packet) (aadOf messageBytes packet)).trans fails
    simp only [onPacket, Session.updateMessageCounter, updates, bind, Except.bind, pure,
      Except.pure, onCountedPacket_of_decode_error failsAfter]
    rw [← sameId]
    exact SessionManager.getSession_updateSession_secure _
      (session.afterCounter packet.header.messageId)
  | none =>
    rcases SecureSession.updateMessageCounter_of_refuse accepts with ⟨refusal, refuses⟩
    have unchanged : session.afterCounter packet.header.messageId = session := by
      simp [SecureSession.afterCounter, accepts]
    rw [unchanged]
    cases refusal <;>
      simp [onPacket, Session.updateMessageCounter, refuses, bind, Except.bind,
        onCountedPacket_of_decode_error fails, found]

/-- A packet that fails to decode leaves the session's reception state as it
was, and every genuine counter acceptable, exactly when its own counter is one
the session refuses anyway: none a message can carry, or one known already. -/
theorem onMessage_leavesSession_iff {decrypt : Decrypt} {manager : ExchangeManager}
    {messageBytes : Bytes} {packet : DecodedPacket} {session : SecureSession}
    {error : MatterError}
    (decodes : MessageCodec.decodePacket messageBytes = .ok packet)
    (selects : manager.Selects packet.header session)
    (fails : session.decode decrypt packet (aadOf messageBytes packet) = .error error) :
    (∃ after,
        (onMessage decrypt manager messageBytes).1.sessionManager.getSession
          packet.header.sessionId = some after ∧
        after.messageReceptionState = session.messageReceptionState ∧
        ∀ messageCounter, (accept session.messageReceptionState messageCounter).isSome →
          (accept after.messageReceptionState messageCounter).isSome) ↔
      ¬InRange packet.header.messageId ∨
        (packet.header.messageId : Int) ∈ known session.messageReceptionState := by
  have foundAfter := getSession_onMessage_of_decode_error decodes selects fails
  rw [← accept_eq_none_iff, ← session.afterCounter_unchanged_iff, foundAfter]
  constructor
  · intro leaves
    rcases leaves with ⟨after, isAfter, unchanged, _⟩
    rw [Option.some.inj isAfter]
    exact unchanged
  · intro unchanged
    refine ⟨_, rfl, unchanged, ?_⟩
    intro messageCounter accepts
    rwa [unchanged]

/-! ## A forged header -/

def genuineSession : SecureSession where
  id := 5
  peerNodeId := 1
  decryptKey := []
  closingAfterExchangeFinished := false
  messageReceptionState := .new (some 10)

def genuineManager : ExchangeManager where
  sessionManager :=
    SessionManager.updateSession
      { sessions := .empty, insecureSessions := .empty, id_of_get := nofun
        initiator_of_get := nofun }
      (.secure genuineSession)
  exchanges := .empty
  protocols := []
  closing := false

/-- A packet with a header for that session, and a payload that is not
authentic. -/
def forgedPacket (messageId : Nat) : DecodedPacket where
  header :=
    { sessionId := 5, sessionType := .unicast, hasPrivacyEnhancements := false
      isControlMessage := false, hasMessageExtensions := false, messageId
      sourceNodeId := none, destNodeId := none, destGroupId := none
      securityFlags := 0 }
  messageExtension := none
  applicationPayload := [1, 2, 3]

def forgedBytes (messageId : Nat) : Bytes :=
  MessageCodec.encodePacketHeader (forgedPacket messageId).header.toPacketHeader ++ [1, 2, 3]

def notAuthentic : MatterError :=
  .error "Unsupported state or unable to authenticate data"

/-- The cipher on data that is not authentic. -/
def rejectAll : Decrypt := fun _ _ _ _ => .error notAuthentic

theorem decode_rejectAll (session : SecureSession) (packet : DecodedPacket) (aad : Bytes) :
    session.decode rejectAll packet aad = .error notAuthentic := rfl

theorem forgedPacket_selects (messageId : Nat) :
    genuineManager.Selects (forgedPacket messageId).header genuineSession := by
  refine ⟨rfl, ?_, rfl⟩
  change 5 ≠ 0
  decide

theorem onMessage_leavesSession_staleCounter :
    ∃ after,
      (onMessage rejectAll genuineManager (forgedBytes 3)).1.sessionManager.getSession 5 =
        some after ∧
      after.messageReceptionState = genuineSession.messageReceptionState ∧
      ∀ messageCounter,
        (accept genuineSession.messageReceptionState messageCounter).isSome →
          (accept after.messageReceptionState messageCounter).isSome := by
  have decodes : MessageCodec.decodePacket (forgedBytes 3) = .ok (forgedPacket 3) := rfl
  have known : (3 : Int) ∈ known genuineSession.messageReceptionState :=
    ⟨10, rfl, .inr (.inr ⟨by decide, by decide⟩)⟩
  exact (onMessage_leavesSession_iff decodes (forgedPacket_selects 3)
    (decode_rejectAll _ _ _)).mpr (.inr known)

/-- A forged packet with the counter 40 fails to decode, and from then on the
genuine packet with the counter 40 is taken for a duplicate. -/
theorem onMessage_forgedPacket_consumesCounter :
    MessageCodec.decodePacket (forgedBytes 40) = .ok (forgedPacket 40) ∧
      genuineManager.Selects (forgedPacket 40).header genuineSession ∧
      (∃ error, genuineSession.decode rejectAll (forgedPacket 40)
        (aadOf (forgedBytes 40) (forgedPacket 40)) = .error error) ∧
      ¬∃ after,
        (onMessage rejectAll genuineManager (forgedBytes 40)).1.sessionManager.getSession 5 =
          some after ∧
        after.messageReceptionState = genuineSession.messageReceptionState ∧
        ∀ messageCounter,
          (accept genuineSession.messageReceptionState messageCounter).isSome →
            (accept after.messageReceptionState messageCounter).isSome := by
  have decodes : MessageCodec.decodePacket (forgedBytes 40) = .ok (forgedPacket 40) := rfl
  refine ⟨decodes, forgedPacket_selects 40, ⟨_, decode_rejectAll _ _ _⟩, ?_⟩
  intro leaves
  rcases leaves with ⟨after, isAfter, _, stillAccepted⟩
  have found := getSession_onMessage_of_decode_error decodes (forgedPacket_selects 40)
    (decode_rejectAll _ _ _)
  cases isAfter.symm.trans found
  exact absurd (stillAccepted 40 (by decide)) (by decide)

end ExchangeManager

end MatterJs.Protocol
