import LogSift.Unicode.Name.Alias
import LogSift.Unicode.Name.Ancient
import LogSift.Unicode.Name.Kana
import LogSift.Unicode.Name.Scripts
import LogSift.Unicode.Name.Signs
import LogSift.Unicode.Name.Symbols

/-!
# Names of characters

`charNamed?` finds a character by its name in Unicode 14. Most names are listed and are found in any
case. Unified ideographs are named by their code point and Hangul syllables by their parts; their
names are in upper case.
-/

namespace LogSift.Unicode

/-! ## Names with a code point -/

/-- The code points of unified ideographs. -/
def ideographs : List (Nat × Nat) :=
  [(0x3400, 0x4DBF), (0x4E00, 0x9FFF), (0x20000, 0x2A6DF), (0x2A700, 0x2B738), (0x2B740, 0x2B81D),
    (0x2B820, 0x2CEA1), (0x2CEB0, 0x2EBE0), (0x30000, 0x3134A)]

/-- The other characters that are named by a stem and their code point. -/
def numbered : List (String × List (Nat × Nat)) :=
  [("CJK COMPATIBILITY IDEOGRAPH-", [(0xF900, 0xFA6D), (0xFA70, 0xFAD9), (0x2F800, 0x2FA1D)]),
    ("KHITAN SMALL SCRIPT CHARACTER-", [(0x18B00, 0x18CD5)]),
    ("NUSHU CHARACTER-", [(0x1B170, 0x1B2FB)])]

/-- The number that hexadecimal digits in upper case stand for. -/
def upperHex? (digits : List Char) : Option Nat :=
  digits.foldl (fun value c => value.bind fun n =>
    if c.isDigit then some (16 * n + (c.toNat - '0'.toNat))
    else if 'A' ≤ c && c ≤ 'F' then some (16 * n + (c.toNat - 'A'.toNat + 10))
    else none) (some 0)

/-- The code point in a name that consists of a stem and a code point of some ranges, in four or
five digits. -/
def findNumbered? (stem : String) (ranges : List (Nat × Nat)) (name : List Char) : Option Nat :=
  let digits := name.drop stem.length
  if stem.toList.isPrefixOf name && (digits.length = 4 || digits.length = 5) then
    (upperHex? digits).filter fun n => ranges.any fun (first, last) => first ≤ n && n ≤ last
  else none

/-- The code point in a listed name, which begins with no zero. -/
def findUnpadded? (stem : String) (ranges : List (Nat × Nat)) (name : List Char) : Option Nat :=
  if (name.drop stem.length).head? = some '0' then none else findNumbered? stem ranges name

/-! ## Hangul syllables -/

/-- The names of the parts of a syllable: leading consonants, vowels and trailing consonants. -/
def syllableParts : List (List String) :=
  [["G", "GG", "N", "D", "DD", "R", "M", "B", "BB", "S", "SS", "", "J", "JJ", "C", "K", "T", "P",
      "H"],
    ["A", "AE", "YA", "YAE", "EO", "E", "YEO", "YE", "O", "WA", "WAE", "OE", "YO", "U", "WEO", "WE",
      "WI", "YU", "EU", "YI", "I"],
    ["", "G", "GG", "GS", "N", "NJ", "NH", "D", "L", "LG", "LM", "LB", "LS", "LT", "LP", "LH", "M",
      "B", "BS", "S", "SS", "NG", "J", "C", "K", "T", "P", "H"]]

/-- The longest part with which a name begins: its index and its length. -/
def longestPart? (parts : List String) (name : List Char) : Option (Nat × Nat) :=
  parts.zipIdx.foldl (fun best (part, i) =>
    if part.toList.isPrefixOf name && best.all fun (_, length) => length < part.length then
      some (i, part.length)
    else best) none

/-- The number of a syllable, part by part. -/
def syllableIndex? (index : Nat) : List (List String) → List Char → Option Nat
  | [], name => if name.isEmpty then some index else none
  | parts :: more, name =>
    match longestPart? parts name with
    | some (i, length) => syllableIndex? (index * parts.length + i) more (name.drop length)
    | none => none

/-- What the names of syllables begin with. -/
def syllableStem : String := "HANGUL SYLLABLE "

/-- The code point of a Hangul syllable. -/
def findSyllable? (name : List Char) : Option Nat :=
  if syllableStem.toList.isPrefixOf name then
    (syllableIndex? 0 syllableParts (name.drop syllableStem.length)).map (0xAC00 + ·)
  else none

/-! ## All names -/

/-- The code point of a listed name in upper case. -/
def findListed? (name : List Char) : Option Nat :=
  (findInRuns? name scriptsNames).or <| (findInRuns? name symbolsNames).or <|
    (findInRuns? name kanaNames).or <| (findInRuns? name ancientNames).or <|
    (findInRuns? name signsNames).or <| (findInRuns? name furtherNames).or <|
    numbered.findSome? fun (stem, ranges) => findUnpadded? stem ranges name

/-- The code point of the character with a name. -/
def charNamed? (name : String) : Option Nat :=
  let s := name.toList
  (findSyllable? s).or <| (findNumbered? "CJK UNIFIED IDEOGRAPH-" ideographs s).or <|
    if s.isEmpty then none else findListed? (s.map Char.toUpper)

end LogSift.Unicode
