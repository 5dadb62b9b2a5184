import PyKMIP.Wire.Requests

/-!
# Decoding ends

Every run of the reader of request messages ends.  Each of its iterations takes
a header at least, and the readers of nested structures have no more bytes than
the structures declare, the message itself apart: its header and its batch items
are read from the buffer of the message.
-/

namespace PyKMIP.Wire

open Traces

section Runs

theorem reads_inPlace
    (kmipVersion : KmipVersion) {bytes : Bytes} {fuel : Nat}
    (enough : bytes.length < fuel) :
    Tracer.InPlace 8 .requestMessage bytes
      (RequestMessage.read kmipVersion fuel bytes) :=
  Tracer.Sound.inPlace (takes_readHeader .requestMessage) requestMessage.sound
    .requestMessage enough

/-- Whatever the input is, reading a request returns or raises, and as much fuel
as there are bytes is as good as any.  An iteration takes eight bytes or more,
and a nested structure has at most what it declares. -/
theorem decoding_ends
    (kmipVersion : KmipVersion) (bytes : Bytes) (fuel : Nat)
    (enough : bytes.length < fuel) :
    let run := RequestMessage.read kmipVersion fuel bytes
    run.outcome ≠ none ∧
    (∀ other, bytes.length < other →
      RequestMessage.read kmipVersion other bytes = run) ∧
    (∀ before after, .iteration before after ∈ run.events →
      after + 8 ≤ before) ∧
    8 * iterations run.events ≤ bytes.length ∧
    (∀ tag declared given, .opened tag declared given ∈ run.events →
      given ≤ declared ∨ tag = .requestMessage) ∧
    (∀ tag declared taken, .closed tag declared taken ∈ run.events →
      taken ≤ declared ∨ tag = .requestMessage) ∧
    ((∀ declared rest, (readHeader .requestMessage).run bytes =
        .ok (declared, rest) → rest.length ≤ declared) →
      ∀ event ∈ run.events, event.Fair 8) := by
  have ran := reads_inPlace kmipVersion enough
  refine ⟨ran.ends, ?_, ?_, ?_, ?_, ?_, ?_⟩
  · intro other enoughToo
    exact Tracer.Sound.settled_inPlace (takes_readHeader .requestMessage)
      requestMessage.sound .requestMessage enoughToo enough
  · intro before after member
    exact (ran.fair _ member).resolve_right id
  · have bounded := ran.bounded
    rwa [weight_eq] at bounded
  · intro tag declared given member
    exact ran.fair _ member
  · intro tag declared taken member
    exact ran.fair _ member
  · exact Tracer.Sound.inPlace_fair (takes_readHeader .requestMessage)
      requestMessage.sound .requestMessage enough

/-- Version 1.0, and a batch of one item that discovers versions; the message
declares that it is empty. -/
def undeclaredRequest : Bytes :=
  [0x42, 0x00, 0x78, 0x01, 0, 0, 0, 0x00] ++
  [0x42, 0x00, 0x77, 0x01, 0, 0, 0, 0x38] ++
  [0x42, 0x00, 0x69, 0x01, 0, 0, 0, 0x20] ++
  [0x42, 0x00, 0x6A, 0x02, 0, 0, 0, 4, 0, 0, 0, 1, 0, 0, 0, 0] ++
  [0x42, 0x00, 0x6B, 0x02, 0, 0, 0, 4, 0, 0, 0, 0, 0, 0, 0, 0] ++
  [0x42, 0x00, 0x0D, 0x02, 0, 0, 0, 4, 0, 0, 0, 1, 0, 0, 0, 0] ++
  [0x42, 0x00, 0x0F, 0x01, 0, 0, 0, 0x18] ++
  [0x42, 0x00, 0x5C, 0x05, 0, 0, 0, 4, 0, 0, 0, 0x1E, 0, 0, 0, 0] ++
  [0x42, 0x00, 0x79, 0x01, 0, 0, 0, 0]

theorem decoding_undeclared_ends :
    (RequestMessage.read .kmip10 105 undeclaredRequest).outcome ≠ none ∧
      8 * iterations (RequestMessage.read .kmip10 105 undeclaredRequest).events ≤
        undeclaredRequest.length :=
  have ends := decoding_ends .kmip10 undeclaredRequest 105 (by decide)
  ⟨ends.1, ends.2.2.2.1⟩

/-- The message takes its header and its batch item, which it does not
declare. -/
theorem message_takes_more_than_declared :
    ¬ ∀ (kmipVersion : KmipVersion) (bytes : Bytes) (fuel : Nat),
      bytes.length < fuel → ∀ tag declared taken,
        .closed tag declared taken ∈
          (RequestMessage.read kmipVersion fuel bytes).events →
        taken ≤ declared := by
  intro within
  have taken := within .kmip10 undeclaredRequest 105 (by decide)
    .requestMessage 0 96 (by decide +kernel)
  omega

end Runs

end PyKMIP.Wire
