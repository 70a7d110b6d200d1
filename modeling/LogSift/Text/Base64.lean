/-!
# Base 64

`decode` reads octets that are written with 64 characters, four for three octets. Other characters
are skipped. Reading stops where padding completes a group; a group that is left incomplete is
refused.
-/

namespace LogSift.Text.Base64

/-- The number that a character stands for. -/
def digit? (c : Char) : Option Nat :=
  if c.isUpper then some (c.toNat - 'A'.toNat)
  else if c.isLower then some (c.toNat - 'a'.toNat + 26)
  else if c.isDigit then some (c.toNat - '0'.toNat + 52)
  else if c = '+' then some 62
  else if c = '/' then some 63
  else none

/-- A group of four characters that is being read. -/
structure Group where
  /-- The number of characters that have been read. -/
  count : Nat
  /-- The bits of the last character that belong to the next octet. -/
  bits : Nat
  /-- The number of padding characters since then. -/
  padding : Nat

/-- The beginning of a group. -/
def Group.start : Group := ⟨0, 0, 0⟩

/-- Adds a character to a group: the octet that it completes and the group after it. -/
def Group.push (g : Group) (d : Nat) : Option UInt8 × Group :=
  match g.count with
  | 0 => (none, ⟨1, d, 0⟩)
  | 1 => (some (UInt8.ofNat (g.bits * 4 + d / 16)), ⟨2, d % 16, 0⟩)
  | 2 => (some (UInt8.ofNat (g.bits * 16 + d / 4)), ⟨3, d % 4, 0⟩)
  | _ => (some (UInt8.ofNat (g.bits * 64 + d)), .start)

/-- Reads characters after those of a group. -/
def decodeFrom (g : Group) : List Char → Option (List UInt8)
  | [] => if g.count = 0 then some [] else none
  | c :: rest =>
    if c = '=' then
      if 2 ≤ g.count then
        if 4 ≤ g.count + (g.padding + 1) then some []
        else decodeFrom { g with padding := g.padding + 1 } rest
      else decodeFrom g rest
    else
      match digit? c with
      | none => decodeFrom g rest
      | some d =>
        match g.push d with
        | (none, g) => decodeFrom g rest
        | (some octet, g) => (decodeFrom g rest).map (octet :: ·)

/-- The octets that a text stands for. -/
def decode (s : List Char) : Option (List UInt8) := decodeFrom .start s

end LogSift.Text.Base64
