import LogSift.Text.Quoted

/-!
# UTF-8

`scan` reads octets into pieces: a character, or a failure that covers the octets that cannot
begin or go on with a character. `decode` refuses the first failure, `decodeLossy` puts the
replacement character in the place of each.
-/

namespace LogSift.Text.Utf8

/-- What is wrong with a group of octets. -/
inductive Fault where
  /-- No character begins with this octet. -/
  | start
  /-- The octet after the group cannot go on with the character. -/
  | continuation
  /-- The text ends inside the character. -/
  | truncated
  deriving DecidableEq, Repr

/-- A group of octets that is no character. -/
structure Failure where
  position : Nat
  length : Nat
  first : UInt8
  fault : Fault
  deriving DecidableEq, Repr

/-- What one step of reading yields. -/
inductive Piece where
  | char (c : Char)
  | bad (f : Failure)
  deriving DecidableEq, Repr

/-- A character that is not complete: the octets read, how many are owed, the bounds of the next
one and the bits read so far. -/
structure Pending where
  position : Nat
  first : UInt8
  taken : Nat
  owed : Nat
  low : Nat
  high : Nat
  bits : Nat

/-- What the first octet of a character announces: a complete character, more octets, or nothing. -/
def announce (position : Nat) (b : UInt8) : Piece ⊕ Pending :=
  let n := b.toNat
  if n < 0x80 then .inl (.char (Char.ofNat n))
  else if n < 0xC2 then .inl (.bad ⟨position, 1, b, .start⟩)
  else if n < 0xE0 then .inr ⟨position, b, 1, 1, 0x80, 0xBF, n - 0xC0⟩
  else if n < 0xF0 then
    .inr ⟨position, b, 1, 2, if n = 0xE0 then 0xA0 else 0x80, if n = 0xED then 0x9F else 0xBF,
      n - 0xE0⟩
  else if n < 0xF5 then
    .inr ⟨position, b, 1, 3, if n = 0xF0 then 0x90 else 0x80, if n = 0xF4 then 0x8F else 0xBF,
      n - 0xF0⟩
  else .inl (.bad ⟨position, 1, b, .start⟩)

/-- The failure of a character that does not go on. -/
def Pending.failure (p : Pending) (fault : Fault) : Piece :=
  .bad ⟨p.position, p.taken, p.first, fault⟩

/-- Reads the octets from a position on. -/
def scan (position : Nat) (pending : Option Pending) : List UInt8 → List Piece
  | [] => match pending with
    | none => []
    | some p => [p.failure .truncated]
  | b :: rest =>
    match pending with
    | some p =>
      if p.low ≤ b.toNat && b.toNat ≤ p.high then
        let bits := p.bits * 64 + (b.toNat - 0x80)
        if p.owed = 1 then .char (Char.ofNat bits) :: scan (position + 1) none rest
        else scan (position + 1)
          (some ⟨p.position, p.first, p.taken + 1, p.owed - 1, 0x80, 0xBF, bits⟩) rest
      else
        match announce position b with
        | .inl piece => p.failure .continuation :: piece :: scan (position + 1) none rest
        | .inr q => p.failure .continuation :: scan (position + 1) (some q) rest
    | none =>
      match announce position b with
      | .inl piece => piece :: scan (position + 1) none rest
      | .inr q => scan (position + 1) (some q) rest

/-- The characters of pieces among which there is no failure. -/
def collect : List Piece → Except Failure (List Char)
  | [] => .ok []
  | .char c :: rest => (collect rest).map (c :: ·)
  | .bad f :: _ => .error f

/-- The text that octets encode. -/
def decode (octets : List UInt8) : Except Failure String :=
  (collect (scan 0 none octets)).map String.ofList

/-- The character that stands for octets that encode nothing. -/
def replacement : Char := Char.ofNat 0xFFFD

/-- The character of a piece. -/
def Piece.charOrReplacement : Piece → Char
  | .char c => c
  | .bad _ => replacement

/-- The text that octets encode, with a replacement character for each failure. -/
def decodeLossy (octets : List UInt8) : String :=
  String.ofList ((scan 0 none octets).map Piece.charOrReplacement)

/-- The octets of a text. -/
def encode (s : String) : List UInt8 := s.toUTF8.toList

/-- The wording of a fault. -/
def Fault.message : Fault → String
  | .start => "invalid start byte"
  | .continuation => "invalid continuation byte"
  | .truncated => "unexpected end of data"

/-- The wording of a failure. -/
def Failure.message (f : Failure) : String :=
  let where_ :=
    if f.length = 1 then
      "byte 0x" ++ String.ofList (hex 2 f.first.toNat) ++ " in position " ++ toString f.position
    else
      "bytes in position " ++ toString f.position ++ "-" ++ toString (f.position + f.length - 1)
  "'utf-8' codec can't decode " ++ where_ ++ ": " ++ f.fault.message

end LogSift.Text.Utf8
