import Ubass.Manager.SessionViews

/-!
# Routines on equal entries

On tables that hold the same for a session, a handler or an endpoint of that session
leaves the same for it, and sends, reports and answers the same.
-/

set_option autoImplicit false

namespace Ubass

universe u

variable {Key : Type u} {keyExchange : KeyExchange Key}

theorem AddressSessionIdTable.remove_alike {left right : AddressSessionIdTable}
    {own : SessionId} (counts : ∀ address,
      (left.sessions address).count own = (right.sessions address).count own)
    (address : SocketAddr) :
    (left.remove address own = none ∧ right.remove address own = none) ∨
      ∃ leftRest rightRest, left.remove address own = some leftRest ∧
        right.remove address own = some rightRest ∧
        ∀ other, (leftRest.sessions other).count own = (rightRest.sessions other).count own := by
  have both : (left.remove address own).isSome = (right.remove address own).isSome := by
    rw [Bool.eq_iff_iff, remove_isSome_iff, remove_isSome_iff, counts]
  cases leftRemoves : left.remove address own with
  | none =>
      rw [leftRemoves] at both
      exact Or.inl ⟨rfl, Option.isNone_iff_eq_none.mp (by simpa using both.symm)⟩
  | some leftRest =>
      rw [leftRemoves] at both
      obtain ⟨rightRest, rightRemoves⟩ := Option.isSome_iff_exists.mp both.symm
      refine Or.inr ⟨leftRest, rightRest, rfl, rightRemoves, ?_⟩
      intro other
      have leftCounts := count_removed leftRemoves other own
      have rightCounts := count_removed rightRemoves other own
      rw [counts] at leftCounts
      omega

namespace ManagerState

variable {own : SessionId} {left right : ManagerState keyExchange}

theorem connection_eq (same : left.view own = right.view own) :
    left.protocol.connections.get own = right.protocol.connections.get own :=
  congrArg ManagerView.connection same

theorem listings_eq (same : left.view own = right.view own) :
    (left.view own).listings = (right.view own).listings :=
  congrArg ManagerView.listings same

theorem key_eq (same : left.view own = right.view own) :
    left.protocol.encryption.get own = right.protocol.encryption.get own :=
  congrArg ManagerView.key same

theorem pending_eq (same : left.view own = right.view own) :
    (left.view own).pending = (right.view own).pending :=
  congrArg ManagerView.pending same

theorem view_withConnection (same : left.view own = right.view own)
    (connection : ConnectionStates) :
    (left.withConnection own connection).view own =
      (right.withConnection own connection).view own := by
  have listings := listings_eq same
  have pending := pending_eq same
  apply ManagerView.ext
  · exact (Table.get_insert_self _ _ _).trans (Table.get_insert_self _ _ _).symm
  · exact key_eq same
  · exact listings
  · exact pending

theorem view_closeSession (same : left.view own = right.view own) :
    (left.closeSession own).view own = (right.closeSession own).view own := by
  have listings := listings_eq same
  have pending := pending_eq same
  rw [closeSession, closeSession, ProtocolState.closeSession, ProtocolState.closeSession,
    connection_eq same]
  cases found : right.protocol.connections.get own with
  | none => exact same
  | some connection =>
      have gone := (Table.get_remove_self left.protocol.connections own).trans
        (Table.get_remove_self right.protocol.connections own).symm
      rcases AddressSessionIdTable.remove_alike (congrFun listings) connection.address with
        ⟨leftNone, rightNone⟩ | ⟨leftRest, rightRest, leftSome, rightSome, counts⟩
      · dsimp only
        rw [leftNone, rightNone]
        apply ManagerView.ext
        · exact gone
        · exact key_eq same
        · exact listings
        · exact pending
      · dsimp only
        rw [leftSome, rightSome]
        apply ManagerView.ext
        · exact gone
        · exact (Table.get_remove_self _ _).trans (Table.get_remove_self _ _).symm
        · exact funext counts
        · exact pending

theorem view_updateAddress (same : left.view own = right.view own) (new : SocketAddr) :
    ({ left with protocol := (left.protocol.updateAddress own new).1 } :
        ManagerState keyExchange).view own =
      ({ right with protocol := (right.protocol.updateAddress own new).1 } :
        ManagerState keyExchange).view own := by
  have listings := listings_eq same
  have pending := pending_eq same
  rw [ProtocolState.updateAddress, ProtocolState.updateAddress, connection_eq same]
  cases found : right.protocol.connections.get own with
  | none => exact same
  | some connection =>
      dsimp only
      by_cases there : new = connection.address
      · rw [if_pos there, if_pos there]
        exact same
      rw [if_neg there, if_neg there, AddressSessionIdTable.moveSession,
        AddressSessionIdTable.moveSession]
      rcases AddressSessionIdTable.remove_alike (congrFun listings) connection.address with
        ⟨leftNone, rightNone⟩ | ⟨leftRest, rightRest, leftSome, rightSome, counts⟩
      · rw [leftNone, rightNone]
        exact same
      · rw [leftSome, rightSome]
        apply ManagerView.ext
        · exact (Table.get_insert_self _ _ _).trans (Table.get_insert_self _ _ _).symm
        · exact key_eq same
        · funext address
          show ((leftRest.push new own).sessions address).count own =
            ((rightRest.push new own).sessions address).count own
          rw [AddressSessionIdTable.count_push, AddressSessionIdTable.count_push, counts]
        · exact pending

/-- Two replies that are the same to the session. -/
structure Alike (own : SessionId) (first second : Reply keyExchange) : Prop where
  view : first.state.view own = second.state.view own
  sent : first.sent = second.sent
  notices : first.notices = second.notices

theorem Alike.sending {first second : Reply keyExchange} (alike : Alike own first second)
    (front : List (WirePacket × SocketAddr)) :
    Alike own { first with sent := front ++ first.sent }
      { second with sent := front ++ second.sent } where
  view := alike.view
  sent := congrArg (front ++ ·) alike.sent
  notices := alike.notices

/-! ## The handlers -/

variable {xxh3_128 : List UInt8 → PacketFingerprint} {inputs : HandlerInputs keyExchange.Secret}

theorem acks_eq (same : left.view own = right.view own) (fingerprint : PacketFingerprint)
    (now : Timestamp) :
    receivedPacketThatRequiresAck left.protocol.connections own fingerprint now =
      receivedPacketThatRequiresAck right.protocol.connections own fingerprint now := by
  rw [receivedPacketThatRequiresAck, receivedPacketThatRequiresAck, connection_eq same]

theorem notifyAndCloseSession_alike (same : left.view own = right.view own) :
    Alike own (left.notifyAndCloseSession own) (right.notifyAndCloseSession own) := by
  rw [notifyAndCloseSession, notifyAndCloseSession, connection_eq same]
  cases found : right.protocol.connections.get own with
  | none => exact ⟨same, rfl, rfl⟩
  | some connection =>
      cases connection with
      | handshake inner appId address => exact ⟨view_closeSession same, rfl, rfl⟩
      | established session => exact ⟨view_closeSession same, rfl, rfl⟩

theorem failedToDerefBuffer_alike (same : left.view own = right.view own) :
    Alike own (left.failedToDerefBuffer own) (right.failedToDerefBuffer own) := by
  rw [failedToDerefBuffer, failedToDerefBuffer, connection_eq same]
  cases found : right.protocol.connections.get own with
  | none => exact ⟨same, rfl, rfl⟩
  | some connection => exact ⟨view_closeSession same, rfl, rfl⟩

theorem receivedTrackRejectPacket_alike {packet : TrackRejectionPacket}
    (same : left.view packet.sessionId = right.view packet.sessionId) :
    Alike packet.sessionId (left.receivedTrackRejectPacket packet)
      (right.receivedTrackRejectPacket packet) := by
  rw [receivedTrackRejectPacket, receivedTrackRejectPacket, connection_eq same]
  cases found : right.protocol.connections.get packet.sessionId with
  | none => exact ⟨same, rfl, rfl⟩
  | some connection => exact ⟨view_withConnection same _, rfl, rfl⟩

theorem receivedRetransmitRequest_alike {packet : RetransmitPacket}
    (same : left.view packet.sessionId = right.view packet.sessionId) :
    Alike packet.sessionId (left.receivedRetransmitRequest xxh3_128 inputs packet)
      (right.receivedRetransmitRequest xxh3_128 inputs packet) := by
  rw [receivedRetransmitRequest, receivedRetransmitRequest, connection_eq same, acks_eq same]
  dsimp only
  split
  · exact ⟨view_withConnection same _, rfl, rfl⟩
  · exact ⟨same, rfl, rfl⟩
  · exact ⟨same, rfl, rfl⟩

theorem receivedKeepAlivePacket_alike {packet : KeepAlivePacket}
    (same : left.view packet.sessionId = right.view packet.sessionId) :
    Alike packet.sessionId (left.receivedKeepAlivePacket packet)
      (right.receivedKeepAlivePacket packet) := by
  rw [receivedKeepAlivePacket, receivedKeepAlivePacket]
  cases packet.address with
  | none => exact ⟨same, rfl, rfl⟩
  | some address => exact ⟨view_updateAddress same address, rfl, rfl⟩

theorem receivedTrackRequestPacket_alike {packet : TrackRequestPacket}
    (same : left.view packet.sessionId = right.view packet.sessionId) :
    Alike packet.sessionId (left.receivedTrackRequestPacket packet)
      (right.receivedTrackRequestPacket packet) := by
  rw [receivedTrackRequestPacket, receivedTrackRequestPacket, connection_eq same]
  split
  · exact ⟨same, rfl, rfl⟩
  · exact ⟨same, rfl, rfl⟩
  · exact ⟨same, rfl, rfl⟩

theorem receivedParityPacket_alike {packet : ParityPacket}
    (same : left.view packet.sessionId = right.view packet.sessionId) :
    Alike packet.sessionId (left.receivedParityPacket xxh3_128 inputs packet)
      (right.receivedParityPacket xxh3_128 inputs packet) := by
  rw [receivedParityPacket, receivedParityPacket, connection_eq same]
  split
  · rename_i recovered connection _ _
    have stored := view_withConnection same
      (connection.recoveredPacket recovered fun index => inputs.clock (index + 2)).session
    dsimp only
    split
    · exact failedToDerefBuffer_alike stored
    · exact ⟨stored, rfl, rfl⟩
    · exact ⟨stored, rfl, rfl⟩
    · exact ⟨stored, rfl, rfl⟩
  · exact ⟨same, rfl, rfl⟩
  · exact ⟨same, rfl, rfl⟩

theorem recoverAfterData_alike (same : left.view own = right.view own) :
    Alike own (left.recoverAfterData inputs own) (right.recoverAfterData inputs own) := by
  rw [recoverAfterData, recoverAfterData, connection_eq same]
  split
  · rename_i recovered connection _ _
    have stored := view_withConnection same
      (connection.recoveredPacket recovered fun index => inputs.clock (index + 2)).session
    dsimp only
    split
    · exact failedToDerefBuffer_alike stored
    · exact ⟨stored, rfl, rfl⟩
    · exact ⟨stored, rfl, rfl⟩
  · exact ⟨same, rfl, rfl⟩
  · exact ⟨same, rfl, rfl⟩

theorem receivedDataPacket_alike {packet : DataPacket}
    (same : left.view packet.sessionId = right.view packet.sessionId) :
    Alike packet.sessionId (left.receivedDataPacket xxh3_128 inputs packet)
      (right.receivedDataPacket xxh3_128 inputs packet) := by
  rw [receivedDataPacket, receivedDataPacket, connection_eq same]
  split
  · exact ⟨same, rfl, rfl⟩
  · exact ⟨same, rfl, rfl⟩
  · rename_i connection _ _
    have stored := view_withConnection same
      (connection.receivedDataPacket packet fun index => inputs.clock (index + 2)).session
    dsimp only
    rw [acks_eq same]
    split
    · exact ⟨stored, rfl, rfl⟩
    · exact (recoverAfterData_alike stored).sending _
    · exact ⟨stored, rfl, rfl⟩
    · exact (failedToDerefBuffer_alike stored).sending _
    · exact ⟨stored, rfl, rfl⟩

theorem closeStream_alike (same : left.view own = right.view own) :
    Alike own (left.closeStream own) (right.closeStream own) := by
  rw [closeStream, closeStream, connection_eq same]
  split
  · exact ⟨same, rfl, rfl⟩
  · exact ⟨view_withConnection same _, rfl, rfl⟩

theorem receivedPlaybackControlPacket_alike {packet : PlaybackControlPacket}
    (same : left.view packet.sessionId = right.view packet.sessionId) :
    Alike packet.sessionId (left.receivedPlaybackControlPacket packet)
      (right.receivedPlaybackControlPacket packet) := by
  rw [receivedPlaybackControlPacket, receivedPlaybackControlPacket, connection_eq same]
  split
  · exact closeStream_alike same
  all_goals
    split
    · exact ⟨view_withConnection same _, rfl, rfl⟩
    · exact ⟨same, rfl, rfl⟩
    · exact ⟨same, rfl, rfl⟩

/-! ## The endpoints -/

/-- Two services that are the same to the session. -/
structure ServedAlike (own : SessionId) (first second : Served keyExchange) : Prop where
  reply : Alike own first.reply second.reply
  answer : first.answer = second.answer

theorem resolveTarget_eq (same : left.view own = right.view own) :
    left.resolveTarget (.session own) = right.resolveTarget (.session own) := by
  rw [resolveTarget, resolveTarget, connection_eq same]

theorem sendData_alike (same : left.view own = right.view own) (debugAssertions : Bool)
    (buffer : ReadableBuffer) (sender : StreamMessage) :
    ServedAlike own (left.sendData debugAssertions (.session own) buffer sender)
      (right.sendData debugAssertions (.session own) buffer sender) := by
  rw [sendData, sendData, resolveTarget_eq same]
  split
  · cases debugAssertions
    · exact ⟨⟨same, rfl, rfl⟩, rfl⟩
    · exact ⟨⟨same, rfl, rfl⟩, rfl⟩
  · rename_i resolved
    cases resolveTarget_session resolved
    rw [connection_eq same]
    split
    · exact ⟨⟨same, rfl, rfl⟩, rfl⟩
    · exact ⟨⟨view_withConnection same _, rfl, rfl⟩, rfl⟩

theorem requestTrack_alike (same : left.view own = right.view own) (id : List UInt8)
    (buffer : WriteableBuffer) (sender : StreamMessage) :
    ServedAlike own (left.requestTrack inputs (.session own) id buffer sender)
      (right.requestTrack inputs (.session own) id buffer sender) := by
  rw [requestTrack, requestTrack, resolveTarget_eq same]
  split
  · exact ⟨⟨same, rfl, rfl⟩, rfl⟩
  · rename_i resolved
    cases resolveTarget_session resolved
    rw [connection_eq same]
    split
    · exact ⟨⟨same, rfl, rfl⟩, rfl⟩
    · exact ⟨⟨view_withConnection same _, rfl, rfl⟩, rfl⟩

theorem closeSessionEndpoint_alike (same : left.view own = right.view own) :
    Alike own (left.closeSessionEndpoint inputs own) (right.closeSessionEndpoint inputs own) := by
  rw [closeSessionEndpoint, closeSessionEndpoint, connection_eq same]
  split
  · exact ⟨same, rfl, rfl⟩
  · exact ⟨view_closeSession same, rfl, rfl⟩

theorem closeStreamEndpoint_alike (same : left.view own = right.view own) :
    Alike own (left.closeStreamEndpoint inputs own) (right.closeStreamEndpoint inputs own) := by
  have closed := closeStream_alike same
  rw [closeStreamEndpoint, closeStreamEndpoint, connection_eq closed.view]
  split
  · exact closed
  · exact ⟨closed.view, rfl, closed.notices⟩

theorem setCompleteStream_alike (same : left.view own = right.view own) (allowPartial : Bool) :
    Alike own (left.setCompleteStream own allowPartial)
      (right.setCompleteStream own allowPartial) := by
  rw [setCompleteStream, setCompleteStream, connection_eq same]
  split
  · exact ⟨same, rfl, rfl⟩
  · exact ⟨view_withConnection same _, rfl, rfl⟩

theorem sendPlaybackControlPacket_alike (same : left.view own = right.view own)
    (control : PlaybackControl) :
    ServedAlike own (left.sendPlaybackControlPacket inputs own control)
      (right.sendPlaybackControlPacket inputs own control) := by
  rw [sendPlaybackControlPacket, sendPlaybackControlPacket, connection_eq same]
  split
  · exact ⟨⟨same, rfl, rfl⟩, rfl⟩
  · exact ⟨⟨same, rfl, rfl⟩, rfl⟩
  · exact ⟨⟨view_withConnection same _, rfl, rfl⟩, rfl⟩

theorem rejectTrackRequest_alike (same : left.view own = right.view own) (trackId : List UInt8) :
    Alike own (left.rejectTrackRequest inputs own trackId)
      (right.rejectTrackRequest inputs own trackId) := by
  rw [rejectTrackRequest, rejectTrackRequest, connection_eq same]
  split
  · exact ⟨same, rfl, rfl⟩
  · split
    · exact ⟨same, rfl, rfl⟩
    · exact ⟨same, rfl, rfl⟩

theorem findHoles_eq (same : left.view own = right.view own) :
    findHoles left.protocol.connections own = findHoles right.protocol.connections own := by
  rw [findHoles, findHoles, connection_eq same]

theorem serve_alike {debugAssertions : Bool} {command : Command}
    (names : command.session = some own) (same : left.view own = right.view own) :
    ServedAlike own (left.serve inputs debugAssertions command)
      (right.serve inputs debugAssertions command) := by
  cases command with
  | connect address => cases names
  | sendData target buffer sender =>
      cases target with
      | session other =>
          cases names
          exact sendData_alike same debugAssertions buffer sender
      | address address => cases names
  | requestTrack target id buffer sender =>
      cases target with
      | session other =>
          cases names
          exact requestTrack_alike same id buffer sender
      | address address => cases names
  | closeSession other =>
      cases names
      exact ⟨closeSessionEndpoint_alike same, rfl⟩
  | closeStream other =>
      cases names
      exact ⟨closeStreamEndpoint_alike same, rfl⟩
  | streamAction other control =>
      cases names
      exact sendPlaybackControlPacket_alike same control
  | setStreamComplete other allowPartial =>
      cases names
      exact ⟨setCompleteStream_alike same allowPartial, rfl⟩
  | findHoles other =>
      cases names
      refine ⟨⟨same, rfl, rfl⟩, ?_⟩
      rw [serve, serve, findHoles_eq same]
      rfl
  | rejectTrackRequest other trackId =>
      cases names
      exact ⟨rejectTrackRequest_alike same trackId, rfl⟩

end ManagerState
end Ubass
