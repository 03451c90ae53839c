import VisualSignParser.Codec.Framing
import VisualSignParser.Codec.OrderedMap

/-!
# Intents

The messages of the intents protocol, as far as they are shown.  Account ids,
public keys and asset ids are the texts they are displayed as.
-/

namespace VisualSignParser.Near

open VisualSignParser.Framing
open VisualSignParser.OrderedMap

/-- Amounts by asset, in the order of the map. -/
structure Amounts (V : Type) where
  entries : List (String × V)
  distinct : DistinctKeys entries

theorem Amounts.ext {V : Type} {left right : Amounts V} (hentries : left.entries = right.entries) :
    left = right := by
  cases left
  cases right
  subst hentries
  rfl

structure TokenDiff where
  diff : Amounts ℤ
  memo : Option String
  referral : Option String

/-- `msg` calls the receiver; a contract to initialize is only known to be there. -/
structure NotifyOnTransfer where
  msg : String
  stateInit : Bool

structure Transfer where
  receiverId : String
  tokens : Amounts ℕ
  memo : Option String
  notification : Option NotifyOnTransfer

/-- What every withdrawal carries besides the token. -/
structure WithdrawDetails where
  memo : Option String
  msg : Option String
  storageDeposit : Option ℕ

structure FtWithdraw where
  token : String
  receiverId : String
  amount : ℕ
  details : WithdrawDetails

structure NftWithdraw where
  token : String
  receiverId : String
  tokenId : String
  details : WithdrawDetails

structure MtWithdraw where
  token : String
  receiverId : String
  tokenIds : List String
  amounts : List ℕ
  details : WithdrawDetails

structure NativeWithdraw where
  receiverId : String
  amount : ℕ

structure StorageDeposit where
  contractId : String
  depositForAccountId : String
  amount : ℕ

structure AuthCall where
  contractId : String
  msg : String
  attachedDeposit : ℕ
  stateInit : Bool

inductive Intent where
  | tokenDiff (diff : TokenDiff)
  | transfer (transfer : Transfer)
  | ftWithdraw (withdraw : FtWithdraw)
  | nftWithdraw (withdraw : NftWithdraw)
  | mtWithdraw (withdraw : MtWithdraw)
  | nativeWithdraw (withdraw : NativeWithdraw)
  | addPublicKey (publicKey : String)
  | removePublicKey (publicKey : String)
  | setAuthByPredecessorId (enabled : Bool)
  | storageDeposit (deposit : StorageDeposit)
  | authCall (call : AuthCall)

/-- The message that is signed.  The deadline is a point in time. -/
structure DefusePayload where
  signerId : String
  verifyingContract : String
  deadline : ℤ
  nonce : ByteArr 32
  intents : List Intent

/-- The standards a signature can follow. -/
inductive SigningStandard where
  | nep413
  | erc191
  | tip191
  | rawEd25519
  | webAuthn
  | tonConnect
  | sep53
  deriving DecidableEq

/-- The key a signature is valid for, and the account that the key implies. -/
structure RecoveredKey where
  publicKey : String
  impliedAccountId : String

/-- A signed payload: its standard, the last byte of its signature, and what the
protocol crate verifies and extracts. -/
structure MultiPayload where
  standard : SigningStandard
  recoveryByte : UInt8
  verified : Option RecoveredKey
  extracted : Except String DefusePayload

end VisualSignParser.Near
