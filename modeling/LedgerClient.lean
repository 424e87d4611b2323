import LedgerClient.Account
import LedgerClient.Action.AccessKey
import LedgerClient.Action.Basic
import LedgerClient.Action.Contract
import LedgerClient.Action.Record
import LedgerClient.Amount.Basic
import LedgerClient.Amount.Operand
import LedgerClient.Amount.Text
import LedgerClient.BlockRef
import LedgerClient.Bytes.Base58
import LedgerClient.Bytes.Base64
import LedgerClient.Bytes.Basic
import LedgerClient.Bytes.Hex
import LedgerClient.Bytes.Order
import LedgerClient.Bytes.Positional
import LedgerClient.Bytes.Utf8
import LedgerClient.Client.Basic
import LedgerClient.Client.Config
import LedgerClient.Curve.Ed25519
import LedgerClient.Curve.Field
import LedgerClient.Curve.Secp256k1
import LedgerClient.Decimal.Exact
import LedgerClient.Decimal.Shortest
import LedgerClient.Dialogue.Basic
import LedgerClient.Dialogue.Run
import LedgerClient.Digest
import LedgerClient.Draft.Assemble
import LedgerClient.Draft.Basic
import LedgerClient.Draft.Delegate
import LedgerClient.Draft.Record
import LedgerClient.Draft.Send
import LedgerClient.Error.Basic
import LedgerClient.Error.Cause
import LedgerClient.Error.Code
import LedgerClient.Error.Record
import LedgerClient.Error.Report
import LedgerClient.Files.Path
import LedgerClient.Files.Tree
import LedgerClient.Hash.Keccak
import LedgerClient.Hash.Keyed
import LedgerClient.Hash.Sha256
import LedgerClient.Hash.Sha512
import LedgerClient.Json.Document
import LedgerClient.Json.Parser
import LedgerClient.Json.Printer
import LedgerClient.Json.Refusal
import LedgerClient.Json.Token
import LedgerClient.Key.Basic
import LedgerClient.Node.Call
import LedgerClient.Node.Query
import LedgerClient.Node.Request
import LedgerClient.Nonce.Cache
import LedgerClient.OffChain.Freshness
import LedgerClient.OffChain.Params
import LedgerClient.OffChain.Signed
import LedgerClient.OffChain.Verify
import LedgerClient.Proofs.Account.Grammar
import LedgerClient.Proofs.Account.Hierarchy
import LedgerClient.Proofs.Action.Nesting
import LedgerClient.Proofs.Action.Persists
import LedgerClient.Proofs.Action.Range
import LedgerClient.Proofs.Action.RoundTrip
import LedgerClient.Proofs.Action.Spelling
import LedgerClient.Proofs.Action.StateInit
import LedgerClient.Proofs.Amount.Ascii
import LedgerClient.Proofs.Amount.Display
import LedgerClient.Proofs.Amount.Grammar
import LedgerClient.Proofs.Amount.Outcome
import LedgerClient.Proofs.Amount.Parsing
import LedgerClient.Proofs.Bytes.Base58
import LedgerClient.Proofs.Bytes.Base64
import LedgerClient.Proofs.Bytes.ByteMap
import LedgerClient.Proofs.Bytes.Hex
import LedgerClient.Proofs.Dialogue.Alike
import LedgerClient.Proofs.Dialogue.Company
import LedgerClient.Proofs.Dialogue.Moves
import LedgerClient.Proofs.Draft.Alone
import LedgerClient.Proofs.Draft.Budget
import LedgerClient.Proofs.Draft.Carried
import LedgerClient.Proofs.Draft.Course
import LedgerClient.Proofs.Draft.Delegation
import LedgerClient.Proofs.Draft.Editing
import LedgerClient.Proofs.Draft.Phase
import LedgerClient.Proofs.Draft.Renewal
import LedgerClient.Proofs.Draft.Resend
import LedgerClient.Proofs.Draft.Sends
import LedgerClient.Proofs.Draft.Stage
import LedgerClient.Proofs.Draft.Trace
import LedgerClient.Proofs.Json.Progress
import LedgerClient.Proofs.Json.Spelling
import LedgerClient.Proofs.Key.Refusal
import LedgerClient.Proofs.Key.Spelling
import LedgerClient.Proofs.Node.Latest
import LedgerClient.Proofs.Node.Moves
import LedgerClient.Proofs.Node.Numbering
import LedgerClient.Proofs.Node.Outcome
import LedgerClient.Proofs.Node.Rejection
import LedgerClient.Proofs.Node.Transient
import LedgerClient.Proofs.Nonce.Calls
import LedgerClient.Proofs.Nonce.FirstUse
import LedgerClient.Proofs.Nonce.Lines
import LedgerClient.Proofs.Nonce.Reseeding
import LedgerClient.Proofs.Nonce.Separation
import LedgerClient.Proofs.OffChain.Policy
import LedgerClient.Proofs.OffChain.Refusal
import LedgerClient.Proofs.OffChain.Spelling
import LedgerClient.Proofs.OffChain.Transport
import LedgerClient.Proofs.OffChain.Verification
import LedgerClient.Proofs.Retry.Course
import LedgerClient.Proofs.Seed.Entropy
import LedgerClient.Proofs.Seed.Recovery
import LedgerClient.Proofs.Seed.Spelling
import LedgerClient.Proofs.Seed.Words
import LedgerClient.Proofs.Signer.Loading
import LedgerClient.Proofs.Signer.Secrecy
import LedgerClient.Proofs.Text.Numeral
import LedgerClient.Proofs.Text.Occurrence
import LedgerClient.Proofs.Transaction.Closed
import LedgerClient.Proofs.Transaction.Payload
import LedgerClient.Proofs.Transaction.PrefixFree
import LedgerClient.Proofs.Transaction.Reencoding
import LedgerClient.Proofs.Transaction.RoundTrip
import LedgerClient.Proofs.View.Shape
import LedgerClient.Proofs.Wire.Canonical
import LedgerClient.Proofs.Wire.Confined
import LedgerClient.Proofs.Wire.Length
import LedgerClient.Proofs.Wire.Persists
import LedgerClient.Proofs.Wire.Reads
import LedgerClient.Proofs.Wire.Scalar
import LedgerClient.Proofs.Wire.Schema
import LedgerClient.Proofs.Wire.Spelling
import LedgerClient.Proofs.Wire.Yields
import LedgerClient.Retry.Loop
import LedgerClient.Retry.Policy
import LedgerClient.Seed.Path
import LedgerClient.Seed.Phrase
import LedgerClient.Seed.Words
import LedgerClient.Shared
import LedgerClient.Signer.Basic
import LedgerClient.Signer.Credential
import LedgerClient.Signer.Holder
import LedgerClient.Signer.Stored
import LedgerClient.Text.Blank
import LedgerClient.Text.Casing
import LedgerClient.Text.Decomposition
import LedgerClient.Text.Loose
import LedgerClient.Text.Numeral
import LedgerClient.Text.Printable
import LedgerClient.Text.Quoted
import LedgerClient.Transaction.Basic
import LedgerClient.Value.Basic
import LedgerClient.Value.Literal
import LedgerClient.Value.Record
import LedgerClient.Value.Shape
import LedgerClient.View.Basic
import LedgerClient.View.Outcome
import LedgerClient.View.Record
import LedgerClient.View.Shape
import LedgerClient.WaitLevel
import LedgerClient.Wire.Encoding
import LedgerClient.Wire.Reader
import LedgerClient.Wire.Scalar
import LedgerClient.Wire.Schema
