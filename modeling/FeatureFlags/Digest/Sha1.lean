/-!
# SHA-1

The digest of a string of bytes, as five words of 32 bits. The message is padded to whole blocks
of sixteen big-endian words, and each block is mixed into the state in eighty rounds.
-/

namespace FeatureFlags.Sha1

/-- The chaining state, and in the end the digest. -/
structure State where
  a : UInt32
  b : UInt32
  c : UInt32
  d : UInt32
  e : UInt32
  deriving Repr, DecidableEq

/-- The state before the first block. -/
def initial : State := ⟨0x67452301, 0xEFCDAB89, 0x98BADCFE, 0x10325476, 0xC3D2E1F0⟩

/-- Turn the bits of a word to the left. -/
def rotate (x : UInt32) (n : UInt32) : UInt32 := (x <<< n) ||| (x >>> (32 - n))

/-- The bytes of a number of 64 bits, the highest first. -/
def bytes64 (n : Nat) : List UInt8 :=
  (List.range 8).map fun i => UInt8.ofNat (n / Nat.pow 256 (7 - i))

/-- The message with a one bit, zeros, and its length in bits, filling whole blocks. -/
def pad (message : List UInt8) : List UInt8 :=
  let zeros := (119 - message.length % 64) % 64
  message ++ 0x80 :: List.replicate zeros 0 ++ bytes64 (8 * message.length)

/-- Four bytes at a time as big-endian words; an incomplete last word is dropped. -/
def words : List UInt8 → List UInt32
  | w :: x :: y :: z :: rest =>
    (w.toUInt32 <<< 24 ||| x.toUInt32 <<< 16 ||| y.toUInt32 <<< 8 ||| z.toUInt32) :: words rest
  | _ => []

/-- The word `back` places before the end of the schedule so far. -/
def earlier (schedule : Array UInt32) (back : Nat) : UInt32 :=
  schedule.getD (schedule.size - back) 0

/-- Eighty words from the sixteen of a block. -/
def schedule (block : List UInt32) : Array UInt32 :=
  (List.range 64).foldl
    (fun w _ =>
      w.push (rotate (earlier w 3 ^^^ earlier w 8 ^^^ earlier w 14 ^^^ earlier w 16) 1))
    block.toArray

/-- The mixing function and constant of a round. -/
def mix (round : Nat) (s : State) : UInt32 :=
  if round < 20 then ((s.b &&& s.c) ||| (~~~s.b &&& s.d)) + 0x5A827999
  else if round < 40 then (s.b ^^^ s.c ^^^ s.d) + 0x6ED9EBA1
  else if round < 60 then ((s.b &&& s.c) ||| (s.b &&& s.d) ||| (s.c &&& s.d)) + 0x8F1BBCDC
  else (s.b ^^^ s.c ^^^ s.d) + 0xCA62C1D6

/-- One round. -/
def step (w : Array UInt32) (s : State) (round : Nat) : State :=
  ⟨rotate s.a 5 + mix round s + s.e + w.getD round 0, s.a, rotate s.b 30, s.c, s.d⟩

/-- Mix a block into the state. -/
def compress (s : State) (block : List UInt32) : State :=
  let t := (List.range 80).foldl (step (schedule block)) s
  ⟨s.a + t.a, s.b + t.b, s.c + t.c, s.d + t.d, s.e + t.e⟩

/-- Mix in words, sixteen at a time. -/
def absorb : Nat → State → List UInt32 → State
  | 0, s, _ => s
  | blocks + 1, s, ws => absorb blocks (compress s (ws.take 16)) (ws.drop 16)

/-- The digest of a string of bytes. -/
def digest (message : List UInt8) : State :=
  let ws := words (pad message)
  absorb (ws.length / 16) initial ws

/-- The digest of the UTF-8 bytes of a text. -/
def digestText (text : String) : State := digest text.toUTF8.toList

end FeatureFlags.Sha1
