import AsmFixtures.Text.Quoted

/-! The SHA-1 digest. A message is closed by a single one bit, zeros and its length in
bits, which makes it a sequence of blocks of sixteen words; each block is stretched to
eighty words, and these stir a state of five words. -/

namespace AsmFixtures.Digest.Sha1

structure State where
  a : UInt32
  b : UInt32
  c : UInt32
  d : UInt32
  e : UInt32
deriving DecidableEq

def initial : State := ⟨0x67452301, 0xefcdab89, 0x98badcfe, 0x10325476, 0xc3d2e1f0⟩

def rotate (x n : UInt32) : UInt32 := (x <<< n) ||| (x >>> (32 - n))

def bigEndian : Nat → Nat → List UInt8
  | 0, _ => []
  | count + 1, n => bigEndian count (n / 256) ++ [UInt8.ofNat n]

/-- As many zeros as bring the length to eight bytes short of a multiple of 64. -/
def zeros (length : Nat) : Nat := (55 + 64 - length % 64) % 64

def pad (message : List UInt8) : List UInt8 :=
  message ++ 0x80 :: (List.replicate (zeros message.length) 0 ++
    bigEndian 8 (8 * message.length))

def words : List UInt8 → List UInt32
  | a :: b :: c :: d :: rest =>
    ((a.toUInt32 <<< 24) ||| (b.toUInt32 <<< 16) ||| (c.toUInt32 <<< 8) ||| d.toUInt32) ::
      words rest
  | _ => []

/-- The words of a block, and as many more as asked for; each new word is made of the
words 3, 8, 14 and 16 places before it. `latest` holds the words in reverse. -/
def stretch (latest : List UInt32) : Nat → List UInt32
  | 0 => latest.reverse
  | count + 1 =>
    let word (i : Nat) : UInt32 := latest.getD i 0
    stretch (rotate (word 2 ^^^ word 7 ^^^ word 13 ^^^ word 15) 1 :: latest) count

def mixing (round : Nat) (b c d : UInt32) : UInt32 × UInt32 :=
  if round < 20 then ((b &&& c) ||| ((~~~b) &&& d), 0x5a827999)
  else if round < 40 then (b ^^^ c ^^^ d, 0x6ed9eba1)
  else if round < 60 then ((b &&& c) ||| (b &&& d) ||| (c &&& d), 0x8f1bbcdc)
  else (b ^^^ c ^^^ d, 0xca62c1d6)

def State.stir (s : State) (round : Nat) (word : UInt32) : State :=
  let (f, k) := mixing round s.b s.c s.d
  ⟨rotate s.a 5 + f + s.e + k + word, s.a, rotate s.b 30, s.c, s.d⟩

def State.add (s t : State) : State := ⟨s.a + t.a, s.b + t.b, s.c + t.c, s.d + t.d, s.e + t.e⟩

def State.absorb (s : State) (block : List UInt32) : State :=
  let stretched := stretch block.reverse 64
  s.add ((stretched.zipIdx).foldl (fun t (word, round) => t.stir round word) s)

def blocks : Nat → List UInt32 → List (List UInt32)
  | 0, _ => []
  | count + 1, ws => ws.take 16 :: blocks count (ws.drop 16)

def digest (message : List UInt8) : State :=
  let ws := words (pad message)
  (blocks (ws.length / 16) ws).foldl State.absorb initial

def hexDigest (message : List UInt8) : String :=
  let s := digest message
  String.ofList ([s.a, s.b, s.c, s.d, s.e].flatMap fun w => Text.hexDigits 8 w.toNat)

end AsmFixtures.Digest.Sha1
