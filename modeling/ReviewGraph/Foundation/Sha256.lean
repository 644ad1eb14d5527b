import ReviewGraph.Foundation.Text

/-!
# SHA-256 of a text

The hash function that the modelled programs apply to UTF-8 encoded texts, executable on words that
are natural numbers below `2 ^ 32`.  What the verification uses of it is the shape of the digest,
`length_hexDigest` and `isHexDigit_of_mem_hexDigest`; collision freedom is not a fact about the
function and appears only as an explicit hypothesis on the texts concerned.
-/

namespace Sha256

/-! ## UTF-8 -/

/-- The UTF-8 encoding of a scalar value, as bytes. -/
def encodeChar (c : Char) : List ℕ :=
  let n := c.toNat
  if n < 0x80 then [n]
  else if n < 0x800 then [0xc0 + n / 0x40, 0x80 + n % 0x40]
  else if n < 0x10000 then [0xe0 + n / 0x1000, 0x80 + n / 0x40 % 0x40, 0x80 + n % 0x40]
  else [0xf0 + n / 0x40000, 0x80 + n / 0x1000 % 0x40, 0x80 + n / 0x40 % 0x40, 0x80 + n % 0x40]

/-- The UTF-8 encoding of a text, as bytes. -/
def utf8 (t : Text) : List ℕ := t.flatMap encodeChar

/-! ## The compression function -/

/-- Truncation to a word. -/
def word (n : ℕ) : ℕ := n % 0x100000000

/-- Rotation of a word to the right. -/
def rotr (n x : ℕ) : ℕ := (x >>> n) ||| word (x <<< (32 - n))

/-- The constant of each round. -/
def roundConstants : List ℕ := [
  0x428a2f98, 0x71374491, 0xb5c0fbcf, 0xe9b5dba5, 0x3956c25b, 0x59f111f1, 0x923f82a4, 0xab1c5ed5,
  0xd807aa98, 0x12835b01, 0x243185be, 0x550c7dc3, 0x72be5d74, 0x80deb1fe, 0x9bdc06a7, 0xc19bf174,
  0xe49b69c1, 0xefbe4786, 0x0fc19dc6, 0x240ca1cc, 0x2de92c6f, 0x4a7484aa, 0x5cb0a9dc, 0x76f988da,
  0x983e5152, 0xa831c66d, 0xb00327c8, 0xbf597fc7, 0xc6e00bf3, 0xd5a79147, 0x06ca6351, 0x14292967,
  0x27b70a85, 0x2e1b2138, 0x4d2c6dfc, 0x53380d13, 0x650a7354, 0x766a0abb, 0x81c2c92e, 0x92722c85,
  0xa2bfe8a1, 0xa81a664b, 0xc24b8b70, 0xc76c51a3, 0xd192e819, 0xd6990624, 0xf40e3585, 0x106aa070,
  0x19a4c116, 0x1e376c08, 0x2748774c, 0x34b0bcb5, 0x391c0cb3, 0x4ed8aa4a, 0x5b9cca4f, 0x682e6ff3,
  0x748f82ee, 0x78a5636f, 0x84c87814, 0x8cc70208, 0x90befffa, 0xa4506ceb, 0xbef9a3f7, 0xc67178f2]

/-- The next word of the message schedule from the last sixteen. -/
def nextWord (w₀ w₁ w₉ w₁₄ : ℕ) : ℕ :=
  word ((rotr 17 w₁₄ ^^^ rotr 19 w₁₄ ^^^ (w₁₄ >>> 10)) + w₉ +
    (rotr 7 w₁ ^^^ rotr 18 w₁ ^^^ (w₁ >>> 3)) + w₀)

/-- The first words of the message schedule of a block.  The second argument is the window of the
sixteen words that determine the rest. -/
def schedule : ℕ → List ℕ → List ℕ
  | 0, _ => []
  | n + 1, w₀ :: w₁ :: w₂ :: w₃ :: w₄ :: w₅ :: w₆ :: w₇ :: w₈ :: w₉ :: w₁₀ :: w₁₁ :: w₁₂ :: w₁₃ ::
      w₁₄ :: w₁₅ :: _ =>
    w₀ :: schedule n [w₁, w₂, w₃, w₄, w₅, w₆, w₇, w₈, w₉, w₁₀, w₁₁, w₁₂, w₁₃, w₁₄, w₁₅,
      nextWord w₀ w₁ w₉ w₁₄]
  | _ + 1, _ => []

/-- The eight working variables. -/
structure State where
  a : ℕ
  b : ℕ
  c : ℕ
  d : ℕ
  e : ℕ
  f : ℕ
  g : ℕ
  h : ℕ

/-- The initial hash value. -/
def initial : State :=
  ⟨0x6a09e667, 0xbb67ae85, 0x3c6ef372, 0xa54ff53a, 0x510e527f, 0x9b05688c, 0x1f83d9ab, 0x5be0cd19⟩

/-- One round with its constant and schedule word. -/
def round (s : State) (kw : ℕ × ℕ) : State :=
  let t₁ := s.h + (rotr 6 s.e ^^^ rotr 11 s.e ^^^ rotr 25 s.e) +
    ((s.e &&& s.f) ^^^ ((0xffffffff ^^^ s.e) &&& s.g)) + kw.1 + kw.2
  let t₂ := (rotr 2 s.a ^^^ rotr 13 s.a ^^^ rotr 22 s.a) +
    ((s.a &&& s.b) ^^^ (s.a &&& s.c) ^^^ (s.b &&& s.c))
  ⟨word (t₁ + t₂), s.a, s.b, s.c, word (s.d + t₁), s.e, s.f, s.g⟩

/-- The compression of one block of sixteen words. -/
def compress (s : State) (block : List ℕ) : State :=
  let r := (roundConstants.zip (schedule 64 block)).foldl round s
  ⟨word (s.a + r.a), word (s.b + r.b), word (s.c + r.c), word (s.d + r.d),
    word (s.e + r.e), word (s.f + r.f), word (s.g + r.g), word (s.h + r.h)⟩

/-! ## Padding and digest -/

/-- The big-endian bytes of a number, `count` of them. -/
def bigEndian : ℕ → ℕ → List ℕ
  | 0, _ => []
  | count + 1, n => n / 256 ^ count % 256 :: bigEndian count n

/-- The padded message. -/
def pad (message : List ℕ) : List ℕ :=
  message ++ 0x80 :: List.replicate ((119 - message.length % 64) % 64) 0 ++
    bigEndian 8 (8 * message.length)

/-- The big-endian words of a sequence of bytes. -/
def words : List ℕ → List ℕ
  | b₀ :: b₁ :: b₂ :: b₃ :: rest =>
    (b₀ * 0x1000000 + b₁ * 0x10000 + b₂ * 0x100 + b₃) :: words rest
  | _ => []

/-- Compress the blocks of a sequence of words; the first argument bounds their number. -/
def compressBlocks : ℕ → State → List ℕ → State
  | 0, s, _ => s
  | n + 1, s, ws => compressBlocks n (compress s (ws.take 16)) (ws.drop 16)

/-- The final hash value of a message. -/
def hash (message : List ℕ) : State :=
  let padded := pad message
  compressBlocks (padded.length / 64) initial (words padded)

/-- The lowercase hexadecimal digit of a number below sixteen. -/
def hexDigit (n : ℕ) : Char := if n < 10 then Char.ofNat (48 + n) else Char.ofNat (87 + n)

/-- The last `count` hexadecimal digits of a number. -/
def hex : ℕ → ℕ → Text
  | 0, _ => []
  | count + 1, n => hexDigit (n / 16 ^ count % 16) :: hex count n

/-- The hexadecimal digest of a UTF-8 encoded text. -/
def hexDigest (t : Text) : Text :=
  let s := hash (utf8 t)
  hex 8 s.a ++ hex 8 s.b ++ hex 8 s.c ++ hex 8 s.d ++ hex 8 s.e ++ hex 8 s.f ++ hex 8 s.g ++
    hex 8 s.h

/-! ## The shape of a digest -/

/-- The characters of a digest. -/
def isHexDigit (c : Char) : Bool := ('0' ≤ c ∧ c ≤ '9') ∨ ('a' ≤ c ∧ c ≤ 'f')

/-- A number has the given count of digits. -/
@[simp] lemma length_hex (count n : ℕ) : (hex count n).length = count := by
  induction count with
  | zero => rfl
  | succ count ih => simp [hex, ih]

/-- A digit is a hexadecimal digit. -/
lemma isHexDigit_hexDigit {n : ℕ} (h : n < 16) : isHexDigit (hexDigit n) = true := by
  interval_cases n <;> rfl

/-- So are those of a number. -/
lemma isHexDigit_of_mem_hex {count n : ℕ} {c : Char} (h : c ∈ hex count n) :
    isHexDigit c = true := by
  induction count with
  | zero => simp [hex] at h
  | succ count ih =>
    rcases List.mem_cons.1 h with rfl | h
    · exact isHexDigit_hexDigit (Nat.mod_lt _ (by norm_num))
    · exact ih h

/-- A digest has 64 characters. -/
lemma length_hexDigest (t : Text) : (hexDigest t).length = 64 := by
  simp [hexDigest]

/-- A digest consists of lowercase hexadecimal digits. -/
lemma isHexDigit_of_mem_hexDigest {t : Text} {c : Char} (h : c ∈ hexDigest t) :
    isHexDigit c = true := by
  simp only [hexDigest, List.mem_append] at h
  rcases h with ((((((h | h) | h) | h) | h) | h) | h) | h <;> exact isHexDigit_of_mem_hex h

example : hexDigest "abc" =
    "ba7816bf8f01cfea414140de5dae2223b00361a396177a9cb410ff61f20015ad" := by decide +kernel

end Sha256
