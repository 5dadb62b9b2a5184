import PyKMIP.Session.Receiving

/-!
# Framing

Whatever the chunks in which the stream arrives, successive calls of either
receiver return the messages that were sent, each call leaves the stream at the
end of its message, and a message that is cut off is refused.
-/

namespace PyKMIP

open Streams StatefulExcept

section Messages

/-- A message as it travels. -/
structure Frame where
  header : Bytes
  payload : Bytes
  header_length : header.length = 8
  /-- The last bytes of the header are the length of the payload. -/
  advertised : BigEndian.decode (header.drop 4) = payload.length

def Frame.bytes (frame : Frame) : Bytes := frame.header ++ frame.payload

/-- Where a stream ends early: some bytes of a message have been sent, but not
all of them. -/
structure Cut where
  frame : Frame
  sent : Nat
  early : sent < frame.bytes.length

def Cut.bytes (cut : Cut) : Bytes := cut.frame.bytes.take cut.sent

/-- The stream of some messages and of the beginning of one more. -/
def stream (frames : List Frame) (cut : Cut) : Bytes :=
  frames.flatMap Frame.bytes ++ cut.bytes

/-- What the client raises at the end of the stream. -/
def Cut.mismatch (cut : Cut) : ReceiveError :=
  if cut.sent = 0 then .eofError
  else if cut.sent < 8 then .requestLengthMismatch 8 cut.sent
  else .requestLengthMismatch cut.frame.payload.length (cut.sent - 8)

end Messages

section Receivers

variable {receive : Receiver (Connection UInt8) Bytes}

/-- The messages that some successive calls return. -/
def successive (receive : Receiver (Connection UInt8) Bytes) :
    Nat → Receiver (Connection UInt8) (List Bytes)
  | 0 => return []
  | count + 1 => do
      let message ← receive
      return message :: (← successive receive count)

/-- What successive calls do on a stream that ends early. -/
structure Frames (receive : Receiver (Connection UInt8) Bytes) (frames : List Frame)
    (cut : Cut) (failure : ReceiveError) : Prop where
  /-- They return the messages in order; what has not been returned is still
  in the stream. -/
  returned : ∀ sent later, frames = sent ++ later → ∀ calls, ∃ after,
    (successive receive sent.length).run ⟨stream frames cut, calls⟩ =
      .ok (sent.map Frame.bytes) ⟨stream later cut, after⟩
  /-- The call after the last message fails. -/
  ended : ∀ calls, ∃ between after,
    (successive receive frames.length).run ⟨stream frames cut, calls⟩ =
      .ok (frames.map Frame.bytes) between ∧
    receive.run between = .error failure after

/-- A receiver of a fixed number of bytes. -/
structure Exact (receive : Receiver (Connection UInt8) Bytes) (count : Nat)
    (failure : Nat → ReceiveError) : Prop where
  whole : ∀ received rest calls, received.length = count → ∃ after,
    receive.run ⟨received ++ rest, calls⟩ = .ok received ⟨rest, after⟩
  short : ∀ received calls, received.length < count → ∃ after,
    receive.run ⟨received, calls⟩ = .error (failure received.length) ⟨[], after⟩

/-- Two exact receivers for the two parts of a message. -/
def inParts (first : Receiver (Connection UInt8) Bytes)
    (second : Nat → Receiver (Connection UInt8) Bytes) :
    Receiver (Connection UInt8) Bytes := do
  let header ← first
  let size ← fromExcept (unpackSize (header.drop 4))
  let payload ← second size
  return header ++ payload

section Parts

variable {first : Receiver (Connection UInt8) Bytes}
  {second : Nat → Receiver (Connection UInt8) Bytes}
  {headerFailure : Nat → ReceiveError}
  {payloadFailure : Nat → Nat → ReceiveError}
  (header : Exact first 8 headerFailure)
  (payload : ∀ size, Exact (second size) size (payloadFailure size))

theorem Frame.unpackSize_header (frame : Frame) :
    unpackSize (frame.header.drop 4) = .ok frame.payload.length := by
  have length : (frame.header.drop 4).length = 4 := by
    rw [List.length_drop, frame.header_length]
  rw [unpackSize, if_pos length, frame.advertised]

include header in
theorem run_inParts
    (second : Nat → Receiver (Connection UInt8) Bytes)
    (frame : Frame) (rest : Bytes) (calls : Nat) :
    ∃ after, (inParts first second).run ⟨frame.header ++ rest, calls⟩ =
      (second frame.payload.length >>= fun payload =>
        pure (frame.header ++ payload)).run ⟨rest, after⟩ := by
  obtain ⟨after, ran⟩ :=
    header.whole frame.header rest calls frame.header_length
  refine ⟨after, ?_⟩
  unfold inParts
  rw [EStateM.run_bind, ran]
  simp only
  exact run_fromExcept_bind frame.unpackSize_header _ _

include header payload in
/-- A whole message is returned, and nothing after it is read. -/
theorem inParts_whole (frame : Frame) (rest : Bytes) (calls : Nat) :
    ∃ after, (inParts first second).run ⟨frame.bytes ++ rest, calls⟩ =
      .ok frame.bytes ⟨rest, after⟩ := by
  rw [Frame.bytes, List.append_assoc]
  obtain ⟨between, parts⟩ := run_inParts header second frame
    (frame.payload ++ rest) calls
  obtain ⟨after, ran⟩ := (payload frame.payload.length).whole frame.payload
    rest between rfl
  refine ⟨after, ?_⟩
  rw [parts, EStateM.run_bind, ran]
  rfl

include header payload in
/-- Of a message that is cut off nothing is returned. -/
theorem inParts_short (cut : Cut) (calls : Nat) :
    ∃ after, (inParts first second).run ⟨cut.bytes, calls⟩ =
      .error (if cut.sent < 8 then headerFailure cut.sent
        else payloadFailure cut.frame.payload.length (cut.sent - 8))
        ⟨[], after⟩ := by
  obtain ⟨frame, sent, early⟩ := cut
  unfold Cut.bytes
  have lengths : frame.bytes.length = 8 + frame.payload.length := by
    rw [Frame.bytes, List.length_append, frame.header_length]
  by_cases inHeader : sent < 8
  · have length : (frame.bytes.take sent).length = sent :=
      List.length_take_of_le (by omega)
    obtain ⟨after, ran⟩ := header.short (frame.bytes.take sent) calls
      (by rw [length]; exact inHeader)
    refine ⟨after, ?_⟩
    unfold inParts
    rw [EStateM.run_bind, ran, length, if_pos inHeader]
  · have split : frame.bytes.take sent =
        frame.header ++ frame.payload.take (sent - 8) := by
      rw [Frame.bytes, List.take_append, frame.header_length,
        List.take_of_length_le (by rw [frame.header_length]; omega)]
    have length : (frame.payload.take (sent - 8)).length = sent - 8 :=
      List.length_take_of_le (by omega)
    obtain ⟨between, parts⟩ := run_inParts header second frame
      (frame.payload.take (sent - 8)) calls
    obtain ⟨after, ran⟩ := (payload frame.payload.length).short
      (frame.payload.take (sent - 8)) between (by rw [length]; omega)
    refine ⟨after, ?_⟩
    rw [split, parts, EStateM.run_bind, ran, length, if_neg inHeader]

end Parts

theorem run_successive
    (whole : ∀ (frame : Frame) rest calls, ∃ after,
      receive.run ⟨frame.bytes ++ rest, calls⟩ = .ok frame.bytes ⟨rest, after⟩)
    (sent : List Frame) (rest : Bytes) (calls : Nat) :
    ∃ after, (successive receive sent.length).run
        ⟨sent.flatMap Frame.bytes ++ rest, calls⟩ =
      .ok (sent.map Frame.bytes) ⟨rest, after⟩ := by
  induction sent generalizing calls with
  | nil => exact ⟨calls, rfl⟩
  | cons frame sent ih =>
      rw [List.flatMap_cons, List.append_assoc]
      obtain ⟨between, ran⟩ := whole frame (sent.flatMap Frame.bytes ++ rest) calls
      obtain ⟨after, others⟩ := ih between
      refine ⟨after, ?_⟩
      rw [List.length_cons, successive, EStateM.run_bind, ran]
      simp only [EStateM.run_bind, others]
      rfl

theorem frames_of
    {failure : ReceiveError} (frames : List Frame) (cut : Cut)
    (whole : ∀ (frame : Frame) rest calls, ∃ after,
      receive.run ⟨frame.bytes ++ rest, calls⟩ = .ok frame.bytes ⟨rest, after⟩)
    (short : ∀ calls, ∃ after,
      receive.run ⟨cut.bytes, calls⟩ = .error failure ⟨[], after⟩) :
    Frames receive frames cut failure where
  returned := by
    rintro sent later rfl calls
    rw [stream, List.flatMap_append, List.append_assoc]
    exact run_successive whole sent _ calls
  ended := by
    intro calls
    obtain ⟨between, returned⟩ :=
      run_successive whole frames cut.bytes calls
    obtain ⟨after, failed⟩ := short between
    exact ⟨_, _, returned, failed⟩

end Receivers

section Loops

variable (splitting : Splitting) {ask : Nat → Nat}

theorem gather_whole (asks : Asks ask) (received rest : Bytes) (calls : Nat) :
    ∃ after, gather splitting.receive ask received.length []
        ⟨received ++ rest, calls⟩ = ⟨.full, received, ⟨rest, after⟩⟩ := by
  obtain ⟨after, gathered⟩ := gather_owed splitting asks [] (received ++ rest)
    received.length (Nat.zero_add _).symm (by simp) calls
  refine ⟨after, ?_⟩
  rw [gathered]
  simp

theorem asks_maxBufferSize : Asks (min · KmipSession.maxBufferSize) :=
  Asks.capped (by decide)

theorem receiveBytes_exact (messageSize : Nat) :
    Exact (KmipSession.receiveBytes splitting.receive messageSize) messageSize
      fun _ => .connectionClosed where
  whole := by
    rintro received rest calls rfl
    obtain ⟨after, gathered⟩ := gather_whole splitting
      asks_maxBufferSize received rest calls
    refine ⟨after, ?_⟩
    unfold KmipSession.receiveBytes EStateM.run
    simp only [gathered]
    simp
  short := by
    intro received calls short
    obtain ⟨after, gathered⟩ := gather_short splitting
      asks_maxBufferSize [] received (by simpa using short) calls
    refine ⟨after, ?_⟩
    unfold KmipSession.receiveBytes EStateM.run
    simp only [gathered]

theorem recvAll_exact (total : Nat) :
    Exact (KMIPProtocol.recvAll splitting.receive total) total
      (.requestLengthMismatch total) where
  whole := by
    rintro received rest calls rfl
    obtain ⟨after, gathered⟩ := gather_whole splitting Asks.all received rest calls
    refine ⟨after, ?_⟩
    unfold KMIPProtocol.recvAll EStateM.run
    simp only [gathered]
    simp
  short := by
    intro received calls short
    obtain ⟨after, gathered⟩ := gather_short splitting
      Asks.all [] received (by simpa using short) calls
    refine ⟨after, ?_⟩
    unfold KMIPProtocol.recvAll EStateM.run
    simp only [gathered]
    simp only [List.nil_append]
    rw [if_pos (Nat.ne_of_lt short)]

theorem readHeader_exact :
    Exact (KMIPProtocol.readHeader splitting.receive) 8 fun received =>
      if received = 0 then .eofError
      else .requestLengthMismatch 8 received where
  whole := by
    intro received rest calls length
    obtain ⟨after, ran⟩ :=
      (recvAll_exact splitting 8).whole received rest calls length
    refine ⟨after, ?_⟩
    unfold KMIPProtocol.readHeader KMIPProtocol.headerSize
    simp only [EStateM.run] at ran ⊢
    rw [ran]
  short := by
    intro received calls short
    obtain ⟨after, ran⟩ := (recvAll_exact splitting 8).short received calls short
    refine ⟨after, ?_⟩
    unfold KMIPProtocol.readHeader KMIPProtocol.headerSize
    simp only [EStateM.run] at ran ⊢
    rw [ran]
    simp only
    split <;> rfl

end Loops

/-- Both receivers return the messages that were sent, whatever the chunks. -/
theorem framing_independent_of_fragmentation
    (splitting : Splitting) (frames : List Frame) (cut : Cut) :
    Frames (KmipSession.receiveRequest splitting.receive) frames cut
        .connectionClosed ∧
      Frames (KMIPProtocol.read splitting.receive) frames cut cut.mismatch := by
  constructor
  · have parts : KmipSession.receiveRequest splitting.receive =
        inParts (KmipSession.receiveBytes splitting.receive 8)
          (KmipSession.receiveBytes splitting.receive) := rfl
    rw [parts]
    apply frames_of
    · exact inParts_whole (receiveBytes_exact splitting 8)
        (receiveBytes_exact splitting)
    · simpa using inParts_short (receiveBytes_exact splitting 8)
        (receiveBytes_exact splitting) cut
  · have parts : KMIPProtocol.read splitting.receive =
        inParts (KMIPProtocol.readHeader splitting.receive)
          (KMIPProtocol.recvAll splitting.receive) := rfl
    rw [parts]
    apply frames_of
    · exact inParts_whole (readHeader_exact splitting) (recvAll_exact splitting)
    · have mismatch : cut.mismatch =
          if cut.sent < 8 then
            if cut.sent = 0 then .eofError
            else .requestLengthMismatch 8 cut.sent
          else .requestLengthMismatch cut.frame.payload.length (cut.sent - 8) := by
        unfold Cut.mismatch
        by_cases none : cut.sent = 0
        · simp [none]
        · simp [none]
      rw [mismatch]
      exact inParts_short (readHeader_exact splitting) (recvAll_exact splitting)
        cut

end PyKMIP
