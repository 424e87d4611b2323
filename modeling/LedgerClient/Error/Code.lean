/-!
Stable numbers of the errors, grouped by where they arise.
-/

namespace LedgerClient

inductive Code where
  | unknown
  | config
  | noSigner
  | invalidAccountId
  | invalidAmount
  | invalidGas
  | invalidKey
  | invalidHash
  | encoding
  | network
  | timeout
  | http
  | invalidResponse
  | rpc
  | accountNotFound
  | invalidAccount
  | accessKeyNotFound
  | unknownBlock
  | unknownChunk
  | unknownEpoch
  | unknownReceipt
  | contractNotDeployed
  | contractStateTooLarge
  | contractExecution
  | shardUnavailable
  | nodeNotSynced
  | invalidShardId
  | invalidTransaction
  | invalidNonce
  | requestTimeout
  | parse
  | internal
  | invalidSeedPhrase
  | signingFailed
  | keyDerivationFailed
  | keyNotFound
  | invalidKeyFormat
  | platformUnavailable
  | transactionBuild
  | transactionFailed
  deriving DecidableEq, Repr, Inhabited

/-- Every code with its number and its name. -/
def Code.table : List (Code × Nat × String) :=
  [(.unknown, 1, "UNKNOWN"), (.config, 2, "CONFIG"), (.noSigner, 3, "NO_SIGNER"),
   (.invalidAccountId, 100, "INVALID_ACCOUNT_ID"), (.invalidAmount, 101, "INVALID_AMOUNT"),
   (.invalidGas, 102, "INVALID_GAS"), (.invalidKey, 103, "INVALID_KEY"),
   (.invalidHash, 104, "INVALID_HASH"), (.encoding, 110, "ENCODING_ERROR"),
   (.network, 200, "NETWORK_ERROR"), (.timeout, 201, "TIMEOUT"), (.http, 202, "HTTP_ERROR"),
   (.invalidResponse, 203, "INVALID_RESPONSE"), (.rpc, 204, "RPC_ERROR"),
   (.accountNotFound, 210, "ACCOUNT_NOT_FOUND"), (.invalidAccount, 211, "INVALID_ACCOUNT"),
   (.accessKeyNotFound, 212, "ACCESS_KEY_NOT_FOUND"), (.unknownBlock, 213, "UNKNOWN_BLOCK"),
   (.unknownChunk, 214, "UNKNOWN_CHUNK"), (.unknownEpoch, 215, "UNKNOWN_EPOCH"),
   (.unknownReceipt, 216, "UNKNOWN_RECEIPT"), (.contractNotDeployed, 217, "CONTRACT_NOT_DEPLOYED"),
   (.contractStateTooLarge, 218, "CONTRACT_STATE_TOO_LARGE"),
   (.contractExecution, 219, "CONTRACT_EXECUTION"), (.shardUnavailable, 220, "SHARD_UNAVAILABLE"),
   (.nodeNotSynced, 221, "NODE_NOT_SYNCED"), (.invalidShardId, 222, "INVALID_SHARD_ID"),
   (.invalidTransaction, 223, "INVALID_TRANSACTION"), (.invalidNonce, 224, "INVALID_NONCE"),
   (.requestTimeout, 225, "REQUEST_TIMEOUT"), (.parse, 226, "PARSE_ERROR"),
   (.internal, 227, "INTERNAL_ERROR"), (.invalidSeedPhrase, 300, "INVALID_SEED_PHRASE"),
   (.signingFailed, 301, "SIGNING_FAILED"), (.keyDerivationFailed, 302, "KEY_DERIVATION_FAILED"),
   (.keyNotFound, 350, "KEY_NOT_FOUND"), (.invalidKeyFormat, 351, "INVALID_KEY_FORMAT"),
   (.platformUnavailable, 352, "PLATFORM_UNAVAILABLE"),
   (.transactionBuild, 400, "TRANSACTION_BUILD"),
   (.transactionFailed, 401, "TRANSACTION_FAILED")]

def Code.number (c : Code) : Nat := ((Code.table.lookup c).getD (1, "")).1

def Code.name (c : Code) : String := ((Code.table.lookup c).getD (1, "")).2

def Code.ofNumber? (n : Nat) : Option Code :=
  (Code.table.find? fun e => e.2.1 == n).map (·.1)

theorem Code.ofNumber_number (c : Code) : Code.ofNumber? c.number = some c := by
  cases c <;> rfl

end LedgerClient
