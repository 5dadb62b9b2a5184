import PyKMIP.Properties.AttributeReadBack
import PyKMIP.Properties.Authorization
import PyKMIP.Properties.BatchAtomicity
import PyKMIP.Properties.DistinctNames
import PyKMIP.Properties.Immutability
import PyKMIP.Properties.LifeCycle
import PyKMIP.Properties.LocateExactness
import PyKMIP.Properties.Indistinguishability
import PyKMIP.Turns
import PyKMIP.Properties.BatchRejection
import PyKMIP.Properties.PlaceholderIsolation
import PyKMIP.Properties.PolicyFileErrors
import PyKMIP.Properties.PolicyTracking
import PyKMIP.Properties.RegisterGet
import PyKMIP.Properties.SecretAccess
import PyKMIP.Properties.SpellingAgreement
import PyKMIP.Properties.SecretCorrespondence
import PyKMIP.Properties.OwnerSharing
import PyKMIP.Properties.PolicyMeaning
import PyKMIP.Properties.AttributeListing
import PyKMIP.Properties.AttributeDeletion
import PyKMIP.Properties.AttributeModification
import PyKMIP.Properties.LocateOrder
import PyKMIP.Properties.PolicyEffect
import PyKMIP.Lib.BigEndian
import PyKMIP.Lib.Formats
import PyKMIP.Wire.Tags
import PyKMIP.Wire.Primitives
import PyKMIP.Wire.Structures
import PyKMIP.Wire.AttributeValues
import PyKMIP.Wire.Attributes
import PyKMIP.Properties.AttributeForms
import PyKMIP.Wire.AttributePayloads
import PyKMIP.Properties.EncodingMemory
import PyKMIP.Lib.Streams
import PyKMIP.Session.Receiving
import PyKMIP.Properties.Framing
import PyKMIP.Session.Authentication
import PyKMIP.Session.MessageLoop
import PyKMIP.Properties.Authentication
import PyKMIP.Session.AccessDecision
import PyKMIP.Properties.SlugsConfirmation
import PyKMIP.Crypto.Package
import PyKMIP.Crypto.Signatures
import PyKMIP.Properties.SignatureAcceptance
import PyKMIP.Crypto.SymmetricCiphers
import PyKMIP.Properties.DecryptionInverse
import PyKMIP.Crypto.Derivation
import PyKMIP.Properties.DerivationLength
import PyKMIP.Lib.Binary
import PyKMIP.Wire.PrimitiveObjects
import PyKMIP.Properties.PrimitiveRewriting
import PyKMIP.Properties.PolicyStructure
import PyKMIP.Crypto.KeyWrapping
import PyKMIP.Properties.WrappedGet
import PyKMIP.Client.Responses
import PyKMIP.Client.Proxy
import PyKMIP.Client.Methods
import PyKMIP.Properties.ClientVerdicts
import PyKMIP.Properties.KeyMaterial
import PyKMIP.Wire.Encodings
import PyKMIP.Properties.TextEncoding
import PyKMIP.Properties.BigIntegers
import PyKMIP.Properties.NumericBounds
import PyKMIP.Lib.Rewriting
import PyKMIP.Wire.KeyBlocks
import PyKMIP.Properties.KeyBlockRewriting
import PyKMIP.Lib.Traces
import PyKMIP.Wire.TracedItems
import PyKMIP.Wire.Requests
import PyKMIP.Properties.DecodingEnds
import PyKMIP.Properties.Provenance
import PyKMIP.Lib.Interleaving
import PyKMIP.Transactions.Confinement
import PyKMIP.Lib.RoundTrips
import PyKMIP.Properties.Interleavings
import PyKMIP.Wire.RequestWriting
import PyKMIP.Properties.RequestParts
import PyKMIP.Properties.RequestRoundTrip
import PyKMIP.Properties.RemoteCalls
import PyKMIP.Wire.ServerInformation
import PyKMIP.Wire.Responses
import PyKMIP.Wire.ResponseWriting
import PyKMIP.Properties.ResponseRoundTrip
import PyKMIP.Transactions.Answers
import PyKMIP.Wire.EngineResponses
import PyKMIP.Properties.ResponseViews
import PyKMIP.Properties.ReadableReplies
import PyKMIP.Lib.AtomicObjects
import PyKMIP.Wire.EngineRequests
import PyKMIP.Properties.ConcurrentSessions
