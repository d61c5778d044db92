/-! The elliptic curve secp256k1: `y ^ 2 = x ^ 3 + 7` over the integers modulo a prime. -/
namespace RelayStore.Crypto

/-- The prime of the coordinates. -/
def fieldPrime : Nat := 0xfffffffffffffffffffffffffffffffffffffffffffffffffffffffefffffc2f

/-- The number of points. -/
def groupOrder : Nat := 0xfffffffffffffffffffffffffffffffebaaedce6af48a03bbfd25e8cd0364141

def powMod (base modulus : Nat) : Nat → Nat → Nat
  | 0, _ => 1 % modulus
  | fuel + 1, e =>
    if e = 0 then 1 % modulus
    else
      let half := powMod (base * base % modulus) modulus fuel (e / 2)
      if e % 2 = 1 then base * half % modulus else half

def subMod (a b : Nat) : Nat := (a + fieldPrime - b) % fieldPrime

/-- The inverse of a number that is not zero, by Fermat's little theorem. -/
def inverse (a : Nat) : Nat := powMod a fieldPrime 256 (fieldPrime - 2)

/-- A point in coordinates `(x / z ^ 2, y / z ^ 3)`; `z = 0` is the neutral element. -/
structure Point where
  x : Nat
  y : Nat
  z : Nat
  deriving DecidableEq, Repr

namespace Point

def neutral : Point := ⟨1, 1, 0⟩

def generator : Point :=
  ⟨0x79be667ef9dcbbac55a06295ce870b07029bfcdb2dce28d959f2815b16f81798,
    0x483ada7726a3c4655da4fbfc0e1108a8fd17b448a68554199c47d08ffb10d4b8, 1⟩

def double (p : Point) : Point :=
  let m := fieldPrime
  if p.z = 0 then neutral
  else
    let s := 4 * p.x * (p.y * p.y % m) % m
    let t := 3 * p.x * p.x % m
    let x := subMod (t * t % m) (2 * s % m)
    let y := subMod (t * subMod s x % m) (8 * (p.y * p.y % m) * (p.y * p.y % m) % m)
    ⟨x, y, 2 * p.y * p.z % m⟩

def add (p q : Point) : Point :=
  let m := fieldPrime
  if p.z = 0 then q
  else if q.z = 0 then p
  else
    let pz := p.z * p.z % m
    let qz := q.z * q.z % m
    let u := p.x * qz % m
    let v := q.x * pz % m
    let s := p.y * qz % m * q.z % m
    let t := q.y * pz % m * p.z % m
    if u = v then if s = t then p.double else neutral
    else
      let h := subMod v u
      let r := subMod t s
      let hh := h * h % m
      let hhh := h * hh % m
      let w := u * hh % m
      let x := subMod (subMod (r * r % m) hhh) (2 * w % m)
      ⟨x, subMod (r * subMod w x % m) (s * hhh % m), h * p.z % m * q.z % m⟩

/-- A multiple of a point; every bit of the factor takes one unit of fuel. -/
def timesFrom : Nat → Nat → Point → Point → Point
  | 0, _, _, sum => sum
  | fuel + 1, n, p, sum =>
    if n = 0 then sum
    else timesFrom fuel (n / 2) p.double (if n % 2 = 1 then sum.add p else sum)

def times (p : Point) (n : Nat) : Point := timesFrom 256 n p neutral

/-- The two usual coordinates, none for the neutral element. -/
def affine? (p : Point) : Option (Nat × Nat) :=
  if p.z = 0 then none
  else
    let i := inverse p.z
    let ii := i * i % fieldPrime
    some (p.x * ii % fieldPrime, p.y * (ii * i % fieldPrime) % fieldPrime)

/-- The point with a given first coordinate and an even second one. -/
def lift? (x : Nat) : Option Point :=
  if fieldPrime ≤ x then none
  else
    let square := (x * x % fieldPrime * x + 7) % fieldPrime
    let y := powMod square fieldPrime 256 ((fieldPrime + 1) / 4)
    if y * y % fieldPrime ≠ square then none
    else some ⟨x, if y % 2 = 0 then y else fieldPrime - y, 1⟩

end Point
end RelayStore.Crypto
