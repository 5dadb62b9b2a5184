import PyKMIP.Attributes
import PyKMIP.Lib.BigEndian
import PyKMIP.Lib.StatefulExcept
import PyKMIP.Lib.Streams

/-!
# Receiving messages

The session of the server and the protocol object of the client each read a
message in two parts: a header, which holds the length of the payload, and the
payload.
-/

namespace PyKMIP

open Streams StatefulExcept

/-- What the two receivers raise. -/
inductive ReceiveError where
  | connectionClosed | valueError | structError | eofError
  | requestLengthMismatch (expected received : Nat)
deriving DecidableEq, Repr

abbrev Receiver (σ α : Type) := EStateM ReceiveError σ α

/-- `struct.unpack('!I', ...)[0]`. -/
def unpackSize (data : Bytes) : Except ReceiveError Nat :=
  if data.length = 4 then .ok (BigEndian.decode data) else .error .structError

namespace KmipSession

variable {σ : Type} (recv : Transport σ UInt8)

def maxBufferSize : Nat := 4096

def receiveBytes (messageSize : Nat) : Receiver σ Bytes := fun connection =>
  let received :=
    gather recv (min · maxBufferSize) messageSize [] connection
  match received.ending with
  | .exhausted => .error .connectionClosed received.state
  | .absent | .full =>
      if received.items.length ≠ messageSize then
        .error .valueError received.state
      else .ok received.items received.state

def receiveRequest : Receiver σ Bytes := do
  let header ← receiveBytes recv 8
  let messageSize ← fromExcept (unpackSize (header.drop 4))
  let payload ← receiveBytes recv messageSize
  return header ++ payload

end KmipSession

namespace KMIPProtocol

variable {σ : Type} (recv : Transport σ UInt8)

def headerSize : Nat := 8

/-- Both `None` and an empty chunk end the loop. -/
def recvAll (totalBytesToBeRead : Nat) : Receiver σ Bytes := fun socket =>
  let received := gather recv id totalBytesToBeRead [] socket
  if received.items.length ≠ totalBytesToBeRead then
    .error (.requestLengthMismatch totalBytesToBeRead received.items.length)
      received.state
  else .ok received.items received.state

/-- The first part of `read`: without a single byte the stream has ended. -/
def readHeader : Receiver σ Bytes := fun socket =>
  match (recvAll recv headerSize).run socket with
  | .error (.requestLengthMismatch expected received) after =>
      if received = 0 then .error .eofError after
      else .error (.requestLengthMismatch expected received) after
  | result => result

def read : Receiver σ Bytes := do
  let header ← readHeader recv
  let msgSize ← fromExcept (unpackSize (header.drop 4))
  let payload ← recvAll recv msgSize
  return header ++ payload

end KMIPProtocol

end PyKMIP
