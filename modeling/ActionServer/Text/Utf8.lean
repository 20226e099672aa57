/-!
# UTF-8

Bytes are read one character at a time. A sequence that cannot be one is refused at the first byte
that rules it out, and the bytes before that byte form the faulty part; a sequence that the end of
the input cuts short is a fault without length. `lossy` writes one replacement character for each
faulty part.
-/

namespace ActionServer.Utf8

/-- Why bytes are no text: how many bytes before the fault are valid, and how long the faulty part
is unless the input ends within it. -/
structure Fault where
  valid : Nat
  length : Option Nat
  deriving DecidableEq, Repr

namespace Fault

def message (f : Fault) : String :=
  match f.length with
  | some n => s!"invalid utf-8 sequence of {n} bytes from index {f.valid}"
  | none => s!"incomplete utf-8 byte sequence from index {f.valid}"

end Fault

/-- The first character of some bytes, or the length of the faulty part that they begin with. -/
inductive Head where
  | char (c : Char) (size : Nat) (rest : List UInt8)
  | bad (size : Nat) (rest : List UInt8)
  | cut

def isTail (b : UInt8) : Bool := 0x80 ≤ b && b ≤ 0xBF

/-- The low six bits of a continuation byte. -/
def payload (b : UInt8) : Nat := (b &&& 0x3F).toNat

/-- Whether a byte may follow the first byte of a sequence of three. -/
def second3 (a b : UInt8) : Bool :=
  if a == 0xE0 then 0xA0 ≤ b && b ≤ 0xBF
  else if a == 0xED then 0x80 ≤ b && b ≤ 0x9F
  else isTail b

/-- Whether a byte may follow the first byte of a sequence of four. -/
def second4 (a b : UInt8) : Bool :=
  if a == 0xF0 then 0x90 ≤ b && b ≤ 0xBF
  else if a == 0xF4 then 0x80 ≤ b && b ≤ 0x8F
  else isTail b

/-- Reads the first character. -/
def head (a : UInt8) (rest : List UInt8) : Head :=
  if a < 0x80 then .char (Char.ofNat a.toNat) 1 rest
  else if 0xC2 ≤ a && a ≤ 0xDF then
    match rest with
    | [] => .cut
    | b :: rest' =>
      if isTail b then .char (Char.ofNat ((a &&& 0x1F).toNat * 0x40 + payload b)) 2 rest'
      else .bad 1 rest
  else if 0xE0 ≤ a && a ≤ 0xEF then
    match rest with
    | [] => .cut
    | b :: rest' =>
      if !second3 a b then .bad 1 rest
      else match rest' with
        | [] => .cut
        | c :: rest'' =>
          if isTail c then
            .char (Char.ofNat ((a &&& 0x0F).toNat * 0x1000 + payload b * 0x40 + payload c)) 3 rest''
          else .bad 2 rest'
  else if 0xF0 ≤ a && a ≤ 0xF4 then
    match rest with
    | [] => .cut
    | b :: rest' =>
      if !second4 a b then .bad 1 rest
      else match rest' with
        | [] => .cut
        | c :: rest'' =>
          if !isTail c then .bad 2 rest'
          else match rest'' with
            | [] => .cut
            | d :: rest''' =>
              if isTail d then
                .char (Char.ofNat ((a &&& 0x07).toNat * 0x40000 + payload b * 0x1000 +
                  payload c * 0x40 + payload d)) 4 rest'''
              else .bad 3 rest''
  else .bad 1 rest

/-- Reads bytes as text; `count` bytes have been read as the characters `sofar`, last first. Each
step uses up at least one byte, so as many steps as bytes suffice. -/
def decodeFrom : Nat → (count : Nat) → (sofar : List Char) → List UInt8 → Except Fault (List Char)
  | _, _, sofar, [] => .ok sofar.reverse
  | 0, _, sofar, _ :: _ => .ok sofar.reverse
  | fuel + 1, count, sofar, a :: rest =>
    match head a rest with
    | .char c size rest => decodeFrom fuel (count + size) (c :: sofar) rest
    | .bad size _ => .error ⟨count, some size⟩
    | .cut => .error ⟨count, none⟩

/-- Reads bytes as text. -/
def decode (bytes : List UInt8) : Except Fault String :=
  (decodeFrom bytes.length 0 [] bytes).map String.ofList

/-- Reads bytes as text, a replacement character standing for each faulty part. -/
def lossyFrom : Nat → (sofar : List Char) → List UInt8 → List Char
  | _, sofar, [] => sofar.reverse
  | 0, sofar, _ :: _ => sofar.reverse
  | fuel + 1, sofar, a :: rest =>
    match head a rest with
    | .char c _ rest => lossyFrom fuel (c :: sofar) rest
    | .bad _ rest => lossyFrom fuel ('\uFFFD' :: sofar) rest
    | .cut => ('\uFFFD' :: sofar).reverse

/-- Reads bytes as text, a replacement character standing for each faulty part. -/
def lossy (bytes : List UInt8) : String :=
  String.ofList (lossyFrom bytes.length [] bytes)

/-- The bytes of a text. -/
def encode (s : String) : List UInt8 :=
  s.toUTF8.toList

end ActionServer.Utf8
