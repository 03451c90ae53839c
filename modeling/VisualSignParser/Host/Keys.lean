import VisualSignParser.Codec.Hex

/-!
# Signing keys

The elliptic-curve keys live in a library outside the repository.  The model
takes its operations as parameters; what the parser relies on is stated once,
as `Lawful`, and named where a result needs it.
-/

namespace VisualSignParser.Host

open VisualSignParser.Framing

/-- The operations of `qos_p256::P256Pair` and `P256Public`, with the reader of
hexadecimal text from the same family.  Errors are their debug texts. -/
structure P256 where
  Pair : Type
  Public : Type
  decEqPublic : DecidableEq Public
  publicKey : Pair → Public
  toBytes : Public → Bytes
  fromBytes : Bytes → Except String Public
  sign : Pair → Bytes → Except String Bytes
  verify : Public → Bytes → Bytes → Bool
  hexDecode : String → Except String Bytes

instance (p256 : P256) : DecidableEq p256.Public := p256.decEqPublic

/-- Keys and digits read back as they were written, and a key pair signs every
message so that its own public key accepts the signature. -/
structure P256.Lawful (p256 : P256) : Prop where
  fromBytes_toBytes : ∀ key, p256.fromBytes (p256.toBytes key) = .ok key
  hexDecode_encode : ∀ bytes, p256.hexDecode (Hex.encode bytes) = .ok bytes
  sign_verify : ∀ pair message, ∃ signature, p256.sign pair message = .ok signature ∧
    p256.verify (p256.publicKey pair) message signature = true

/-- The operations of `qos_p256::sign::P256SignPublic`. -/
structure P256Sign where
  Public : Type
  toBytes : Public → Bytes
  fromBytes : Bytes → Except String Public
  verify : Public → Bytes → Bytes → Bool

end VisualSignParser.Host
