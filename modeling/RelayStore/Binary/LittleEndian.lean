/-! Numbers as bytes, the lowest first. -/
namespace RelayStore.Binary

/-- The `size` lowest bytes of a number. -/
def littleEndian : (size : Nat) → Nat → List UInt8
  | 0, _ => []
  | size + 1, n => .ofNat n :: littleEndian size (n / 256)

def ofLittleEndian (bytes : List UInt8) : Nat := bytes.foldr (fun b n => b.toNat + 256 * n) 0

/-- Seven bits to a byte; the highest bit says that more follow. -/
def varint (n : Nat) : List UInt8 :=
  if n < 128 then [.ofNat n] else .ofNat (n % 128 + 128) :: varint (n / 128)

end RelayStore.Binary
