import RelayStore.Crypto.Curve
import RelayStore.Crypto.Sha256

/-! Schnorr signatures over secp256k1 with keys of 32 bytes. -/
namespace RelayStore.Crypto

/-- A digest that is kept apart from others by the digest of a name. -/
def taggedDigest (name : String) (message : List UInt8) : List UInt8 :=
  let tag := sha256 name.toUTF8.toList
  sha256 (tag ++ tag ++ message)

/-- Whether a signature of 64 bytes belongs to a message under a public key. -/
def verifies (key message signature : List UInt8) : Bool :=
  let commitment := signature.take 32
  let r := ofBigEndian commitment
  let s := ofBigEndian (signature.drop 32)
  match Point.lift? (ofBigEndian key) with
  | none => false
  | some p =>
    if fieldPrime ≤ r ∨ groupOrder ≤ s then false
    else
      let challenge := taggedDigest "BIP0340/challenge" (commitment ++ key ++ message)
      let e := ofBigEndian challenge % groupOrder
      match ((Point.generator.times s).add (p.times (groupOrder - e))).affine? with
      | some (x, y) => y % 2 = 0 && x = r
      | none => false

end RelayStore.Crypto
