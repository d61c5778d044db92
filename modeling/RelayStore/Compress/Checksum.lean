/-! The cyclic redundancy check over 32 bits. -/
namespace RelayStore.Compress

/-- Divides by the polynomial, one bit. -/
def checksumBit (r : UInt32) : UInt32 :=
  if r &&& 1 = 1 then (r >>> 1) ^^^ 0xedb88320 else r >>> 1

def checksumByte (r : UInt32) (b : UInt8) : UInt32 :=
  Nat.repeat checksumBit 8 (r ^^^ b.toUInt32)

def checksum (bytes : List UInt8) : UInt32 := ~~~(bytes.foldl checksumByte 0xffffffff)

end RelayStore.Compress
