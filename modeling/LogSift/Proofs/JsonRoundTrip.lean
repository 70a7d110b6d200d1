import Mathlib.Data.List.TakeWhile
import LogSift.Proofs.JsonValue
import LogSift.Text.Lines

/-!
# Reading what has been written

A value that is made of texts is read from its text as it was written.

* `readString_escape`: a string is read up to its closing quote, with every escape undone.
* `IsEscapeOf.isWhole`: none of these escapes is a lone surrogate.
* `IsTextOf`: what the reader needs to know of the text of a value. The texts of lists and maps have
  it if those of their parts do (`isTextOf_list`, `isTextOf_map`).
* `isTextOf_printValue`: the text that is written has it, at any level.
* `read_print`: the document that has been written gives the value.
-/

namespace LogSift

/-- Whether a value is made of texts: by lists, and by maps of which no key comes twice. -/
inductive Value.IsTextual : Value → Prop
  | text (s : String) : IsTextual (.text s)
  | list {items : List Value} : (∀ v ∈ items, IsTextual v) → IsTextual (.list items)
  | map {entries : Entries Value} : entries.IsDistinct → (∀ e ∈ entries, ∃ name, e.1 = .text name) →
    (∀ e ∈ entries, IsTextual e.2) → IsTextual (.map entries)

namespace Json

/-! ## Strings -/

theorem hex_control : ∀ n < 0x20,
    Text.hex 4 n = ['0', '0', Nat.digitChar (n / 16), Nat.digitChar (n % 16)] := by
  decide

theorem code?_control : ∀ n < 0x20,
    code? '0' '0' (Nat.digitChar (n / 16)) (Nat.digitChar (n % 16)) = some n := by
  decide

theorem codeEscape?_hex {n : Nat} {rest : List Char} (hn : n < 0x20) (hrest : rest ≠ []) :
    codeEscape? (Text.hex 4 n ++ rest) = .ok ⟨some (Char.ofNat n), 4⟩ := by
  have hhigh : isHighSurrogate n = false := by simp [isHighSurrogate]; omega
  have hlow : isLowSurrogate n = false := by simp [isLowSurrogate]; omega
  simp [hex_control n hn, codeEscape?, hrest, code?_control n hn, hhigh, charOfCode?, hlow]

/-- What has been read with an escape is left out. -/
theorem readChars_skip (opened : Nat) (skipped rest : List Char) :
    readChars opened skipped.length (skipped ++ rest) = readChars opened 0 rest := by
  induction skipped with
  | nil => rfl
  | cons c skipped ih =>
    rw [readChars.eq_def]
    simpa using ih

/-- One more character in front of those that are read. -/
def push (c : Char) (read : Except Stop (List Char × List Char)) :
    Except Stop (List Char × List Char) :=
  (fun found => (c :: found.1, found.2)) <$> read

theorem readChars_plain {c : Char} (hquote : c ≠ '"') (hslash : c ≠ '\\')
    (hcontrol : 0x20 ≤ c.toNat) (opened : Nat) (rest : List Char) :
    readChars opened 0 (c :: rest) = push c (readChars opened 0 rest) := by
  rw [readChars.eq_def]
  simp [hquote, hslash, Nat.not_lt.2 hcontrol, push]

theorem readChars_simple {e c : Char} (he : e ≠ 'u') (h : simpleEscape? e = some c)
    (opened : Nat) (rest : List Char) :
    readChars opened 0 ('\\' :: e :: rest) = push c (readChars opened 0 rest) := by
  have hskip : readChars opened 1 (e :: rest) = readChars opened 0 rest :=
    readChars_skip opened [e] rest
  rw [readChars.eq_def]
  simp [h, hskip, push]

theorem readChars_code {n : Nat} (hn : n < 0x20) (opened : Nat) {rest : List Char}
    (hrest : rest ≠ []) : readChars opened 0 ('\\' :: 'u' :: (Text.hex 4 n ++ rest)) =
      push (Char.ofNat n) (readChars opened 0 rest) := by
  have hskip : readChars opened 5 ('u' :: (Text.hex 4 n ++ rest)) = readChars opened 0 rest := by
    have hlength : ('u' :: Text.hex 4 n).length = 5 := by simp [hex_control n hn]
    rw [← hlength]
    exact readChars_skip opened ('u' :: Text.hex 4 n) rest
  rw [readChars.eq_def]
  simp [codeEscape?_hex hn hrest, hskip, push]

/-- The ways in which a character stands in a string. -/
inductive IsEscapeOf (c : Char) : List Char → Prop
  | simple {e : Char} : e ≠ 'u' → simpleEscape? e = some c → IsEscapeOf c ['\\', e]
  | code : c.toNat < 0x20 → IsEscapeOf c ('\\' :: 'u' :: Text.hex 4 c.toNat)
  | plain : c ≠ '"' → c ≠ '\\' → 0x20 ≤ c.toNat → IsEscapeOf c [c]

theorem isEscapeOf_escapeChar (c : Char) : IsEscapeOf c (escapeChar c) := by
  have hsimple : ∀ {e d : Char}, simpleEscape? e = some d → e ≠ 'u' → c = d →
      IsEscapeOf c ['\\', e] := by
    intro e d h he hc
    exact .simple he (hc ▸ h)
  unfold escapeChar
  split
  · next h => exact hsimple rfl (by decide) h
  next hquote =>
  split
  · next h => exact hsimple rfl (by decide) h
  next hslash =>
  split
  · next h => exact hsimple rfl (by decide) h
  split
  · next h => exact hsimple rfl (by decide) h
  split
  · next h => exact hsimple rfl (by decide) h
  split
  · next h => exact hsimple rfl (by decide) h
  split
  · next h => exact hsimple rfl (by decide) h
  split
  · next h => exact .code h
  · next h => exact .plain hquote hslash (Nat.not_lt.1 h)

theorem IsEscapeOf.readChars_eq {c : Char} {cs : List Char} (h : IsEscapeOf c cs) (opened : Nat)
    {rest : List Char} (hrest : rest ≠ []) :
    readChars opened 0 (cs ++ rest) = push c (readChars opened 0 rest) := by
  cases h with
  | simple he h => exact readChars_simple he h opened rest
  | code hcontrol =>
    have hcode := readChars_code hcontrol opened hrest
    rwa [Char.ofNat_toNat] at hcode
  | plain hquote hslash hcontrol => exact readChars_plain hquote hslash hcontrol opened rest

theorem return_not_mem_hex : ∀ n < 0x20, '\r' ∉ Text.hex 4 n := by decide

theorem IsEscapeOf.return_not_mem {c : Char} {cs : List Char} (h : IsEscapeOf c cs) :
    '\r' ∉ cs := by
  cases h with
  | @simple e he h =>
    have hreturn : simpleEscape? '\r' = none := rfl
    have hne : '\r' ≠ e := by
      rintro rfl
      simp [hreturn] at h
    simpa using hne
  | code hcontrol => simpa using return_not_mem_hex _ hcontrol
  | plain hquote hslash hcontrol =>
    have hne : '\r' ≠ c := by
      rintro rfl
      exact absurd hcontrol (by decide)
    simpa using hne

theorem readChars_escape (opened : Nat) (cs rest : List Char) :
    readChars opened 0 (cs.flatMap escapeChar ++ '"' :: rest) = .ok (cs, rest) := by
  induction cs with
  | nil => simp [readChars.eq_def]
  | cons c cs ih =>
    have hmore : cs.flatMap escapeChar ++ '"' :: rest ≠ [] := by simp
    rw [List.flatMap_cons, List.append_assoc,
      (isEscapeOf_escapeChar c).readChars_eq opened hmore, ih]
    rfl

/-- A string is read up to its closing quote, with every escape undone. -/
theorem readString_escape (s : String) (rest : List Char) :
    readString (s.toList.flatMap escapeChar ++ '"' :: rest) = .ok (s, rest) := by
  rw [readString, readChars_escape]
  simp [Except.map]

theorem printString_append (s : String) (rest : List Char) :
    printString s ++ rest = '"' :: (s.toList.flatMap escapeChar ++ '"' :: rest) := by
  simp [printString]

theorem return_not_mem_printString (s : String) : '\r' ∉ printString s := by
  have hescape : '\r' ∉ s.toList.flatMap escapeChar := by
    intro h
    obtain ⟨c, -, hc⟩ := List.mem_flatMap.1 h
    exact (isEscapeOf_escapeChar c).return_not_mem hc
  simpa [printString] using hescape

/-! ## Lone surrogates -/

/-- Whether the search for lone surrogates passes over characters, whatever comes behind. -/
def IsWhole (cs : List Char) : Prop :=
  ∀ rest, hasLoneSurrogate 0 (cs ++ rest) = hasLoneSurrogate 0 rest

theorem IsWhole.append {cs ds : List Char} (hcs : IsWhole cs) (hds : IsWhole ds) :
    IsWhole (cs ++ ds) := by
  intro rest
  rw [List.append_assoc, hcs, hds]

theorem isWhole_of_not_mem {cs : List Char} (h : '\\' ∉ cs) : IsWhole cs := by
  intro rest
  induction cs with
  | nil => rfl
  | cons c cs ih =>
    have hc : '\\' ≠ c := List.ne_of_not_mem_cons h
    rw [List.cons_append, hasLoneSurrogate.eq_def]
    simpa [hc.symm] using ih (List.not_mem_of_not_mem_cons h)

theorem isWhole_flatMap {α : Type} {f : α → List Char} {xs : List α}
    (h : ∀ x ∈ xs, IsWhole (f x)) : IsWhole (xs.flatMap f) := by
  induction xs with
  | nil => exact isWhole_of_not_mem List.not_mem_nil
  | cons x xs ih =>
    obtain ⟨hx, hxs⟩ := List.forall_mem_cons.1 h
    exact hx.append (ih hxs)

theorem hasLoneSurrogate_skip (skipped rest : List Char) :
    hasLoneSurrogate skipped.length (skipped ++ rest) = hasLoneSurrogate 0 rest := by
  induction skipped with
  | nil => rfl
  | cons c skipped ih =>
    rw [List.cons_append, hasLoneSurrogate.eq_def]
    simpa using ih

theorem isWhole_code {n : Nat} (hn : n < 0x20) : IsWhole ('\\' :: 'u' :: Text.hex 4 n) := by
  intro rest
  rw [List.cons_append, List.cons_append, hasLoneSurrogate.eq_def]
  by_cases hrest : rest = []
  · -- The escape is cut off, and its digits are passed over one by one.
    subst hrest
    simp [hex_control n hn, codeEscape?, hasLoneSurrogate]
  · have hlength : ('u' :: Text.hex 4 n).length = 5 := by simp [hex_control n hn]
    have hskip := hasLoneSurrogate_skip ('u' :: Text.hex 4 n) rest
    rw [hlength] at hskip
    simpa [codeEscape?_hex hn hrest] using hskip

theorem IsEscapeOf.isWhole {c : Char} {cs : List Char} (h : IsEscapeOf c cs) : IsWhole cs := by
  cases h with
  | @simple e he h =>
    intro rest
    have hskip : hasLoneSurrogate 1 (e :: rest) = hasLoneSurrogate 0 rest :=
      hasLoneSurrogate_skip [e] rest
    rw [List.cons_append, hasLoneSurrogate.eq_def]
    simpa [he] using hskip
  | code hcontrol => exact isWhole_code hcontrol
  | plain hquote hslash hcontrol => exact isWhole_of_not_mem (by simpa using Ne.symm hslash)

theorem isWhole_printString (s : String) : IsWhole (printString s) := by
  have hescape : IsWhole (s.toList.flatMap escapeChar) :=
    isWhole_flatMap fun c _ => (isEscapeOf_escapeChar c).isWhole
  have hquote : IsWhole ['"'] := isWhole_of_not_mem (by decide)
  exact (hquote.append hescape).append hquote

/-! ## Values -/

/-- Whether characters are the text of a value: it is read from them, whatever comes behind, with
as many steps as there are characters. -/
structure IsTextOf (v : Value) (cs : List Char) : Prop where
  head : ∃ c rest, cs = c :: rest ∧ (c = '"' ∨ c = '[' ∨ c = '\x7b')
  return_not_mem : '\r' ∉ cs
  whole : IsWhole cs
  read : ∀ fuel rest, cs.length ≤ fuel → readValue fuel (cs ++ rest) = .ok (v, rest)

/-- Whether characters are the text of an entry of a map. -/
def IsEntryOf (e : Scalar × Value) (part : List Char) : Prop :=
  ∃ name cs, e.1 = .text name ∧ part = printString name ++ ':' :: ' ' :: cs ∧ IsTextOf e.2 cs

/-- The parts of a block behind the first one. -/
def further (level : Nat) (parts : List (List Char)) : List Char :=
  parts.flatMap fun part => ',' :: newline level ++ part

theorem further_cons (level : Nat) (part : List Char) (parts : List (List Char))
    (rest : List Char) : further level (part :: parts) ++ rest =
      ',' :: (newline level ++ (part ++ (further level parts ++ rest))) := by
  simp [further]

theorem length_further_cons (level : Nat) (part : List Char) (parts : List (List Char)) :
    part.length + (further level parts).length < (further level (part :: parts)).length := by
  have hparts := congrArg List.length (further_cons level part parts [])
  simp only [List.length_append, List.length_cons, List.length_nil] at hparts
  omega

theorem skipBlanks_newline (level : Nat) (s : List Char) :
    skipBlanks (newline level ++ s) = skipBlanks s := by
  have hblank : ∀ n, skipBlanks (List.replicate n ' ' ++ s) = skipBlanks s := by
    intro n
    induction n with
    | zero => rfl
    | succ n ih =>
      rw [List.replicate_succ, List.cons_append, skipBlanks, List.dropWhile_cons_of_pos rfl]
      exact ih
  rw [newline, List.cons_append, skipBlanks, List.dropWhile_cons_of_pos rfl]
  exact hblank _

theorem IsTextOf.skipBlanks_eq {v : Value} {cs : List Char} (h : IsTextOf v cs) (rest : List Char) :
    skipBlanks (cs ++ rest) = cs ++ rest := by
  obtain ⟨c, tail, rfl, hc⟩ := h.head
  rcases hc with rfl | rfl | rfl
  · rfl
  · rfl
  · rfl

theorem return_not_mem_newline (level : Nat) : '\r' ∉ newline level := by
  simp [newline]

theorem isTextOf_printString (s : String) : IsTextOf (.text s) (printString s) where
  head := ⟨'"', _, rfl, .inl rfl⟩
  return_not_mem := return_not_mem_printString s
  whole := isWhole_printString s
  read := by
    intro fuel rest hfuel
    have hlength : 1 ≤ (printString s).length := by simp [printString]
    obtain ⟨fuel, rfl⟩ : ∃ n, fuel = n + 1 := ⟨fuel - 1, by omega⟩
    rw [printString_append, readValue, readString_escape]
    rfl

/-- The items of a list are read up to its closing bracket. -/
theorem readItems_further {inner outer : Nat} {items : List Value} {parts : List (List Char)}
    (h : List.Forall₂ IsTextOf items parts) {v : Value} {first : List Char}
    (hfirst : IsTextOf v first) {fuel : Nat}
    (hfuel : first.length + (further inner parts).length < fuel) (rest : List Char) :
    readItems fuel (first ++ (further inner parts ++ (newline outer ++ ']' :: rest))) =
      .ok (v :: items, rest) := by
  obtain ⟨fuel, rfl⟩ : ∃ n, fuel = n + 1 := ⟨fuel - 1, by omega⟩
  -- On the parts behind the first: the comma before each of them pays for the step to it.
  induction h generalizing v first fuel with
  | nil =>
    have hclosing : skipBlanks (newline outer ++ ']' :: rest) = ']' :: rest := by
      rw [skipBlanks_newline]
      rfl
    rw [readItems, hfirst.read fuel _ (by omega)]
    simp only [further, List.flatMap_nil, List.nil_append, Outcome.ok_bind, hclosing]
    rfl
  | @cons item part items parts hpart hparts ih =>
    have hshorter := length_further_cons inner part parts
    obtain ⟨fuel, rfl⟩ : ∃ n, fuel = n + 1 := ⟨fuel - 1, by omega⟩
    have hnext (s : List Char) : skipBlanks (newline inner ++ (part ++ s)) = part ++ s := by
      rw [skipBlanks_newline, hpart.skipBlanks_eq]
    have hcomma (s : List Char) : skipBlanks (',' :: s) = ',' :: s := rfl
    rw [readItems, hfirst.read _ _ (by omega), further_cons]
    simp only [Outcome.ok_bind, hcomma, hnext]
    rw [ih hpart fuel (by omega)]
    rfl

theorem IsEntryOf.head {e : Scalar × Value} {part : List Char} (h : IsEntryOf e part) :
    ∃ tail, part = '"' :: tail := by
  obtain ⟨name, cs, -, rfl, -⟩ := h
  exact ⟨_, printString_append name _⟩

/-- A member of an object is read, and put behind those before it. -/
theorem readMembers_entry {e : Scalar × Value} {part : List Char} (h : IsEntryOf e part)
    {fuel : Nat} (hfuel : part.length ≤ fuel) (before : Entries Value) (rest : List Char) :
    readMembers (fuel + 1) before (part ++ rest) =
      match skipBlanks rest with
      | '\x7d' :: rest => .ok (before.set e.1 e.2, rest)
      | ',' :: rest => readMembers fuel (before.set e.1 e.2) (skipBlanks rest)
      | rest => .error (.malformed .expectedComma rest.length) := by
  obtain ⟨name, cs, hname, rfl, hvalue⟩ := h
  have hlength : cs.length ≤ fuel := by
    simp at hfuel
    omega
  have hcolon (s : List Char) : skipBlanks (':' :: s) = ':' :: s := rfl
  have hblank (s : List Char) : skipBlanks (' ' :: (cs ++ s)) = cs ++ s :=
    hvalue.skipBlanks_eq s
  rw [List.append_assoc, printString_append, readMembers]
  simp only [List.cons_append, readString_escape, Outcome.ok_bind, hcolon, hblank,
    hvalue.read fuel _ hlength, hname]
  rfl

/-- The members of an object are read up to its closing bracket. -/
theorem readMembers_further {inner outer : Nat} {entries : Entries Value}
    {parts : List (List Char)} (h : List.Forall₂ IsEntryOf entries parts) {e : Scalar × Value}
    {first : List Char} (hfirst : IsEntryOf e first) {fuel : Nat}
    (hfuel : first.length + (further inner parts).length < fuel) (before : Entries Value)
    (rest : List Char) :
    readMembers fuel before (first ++ (further inner parts ++ (newline outer ++ '\x7d' :: rest))) =
      .ok (before.merge (e :: entries), rest) := by
  obtain ⟨fuel, rfl⟩ : ∃ n, fuel = n + 1 := ⟨fuel - 1, by omega⟩
  rw [readMembers_entry hfirst (by omega)]
  induction h generalizing e first fuel before with
  | nil =>
    have hclosing : skipBlanks (newline outer ++ '\x7d' :: rest) = '\x7d' :: rest := by
      rw [skipBlanks_newline]
      rfl
    simp only [further, List.flatMap_nil, List.nil_append, hclosing]
    rfl
  | @cons next part entries parts hpart hparts ih =>
    have hshorter := length_further_cons inner part parts
    obtain ⟨fuel, rfl⟩ : ∃ n, fuel = n + 1 := ⟨fuel - 1, by omega⟩
    have hnext (s : List Char) : skipBlanks (newline inner ++ (part ++ s)) = part ++ s := by
      obtain ⟨tail, rfl⟩ := hpart.head
      rw [skipBlanks_newline]
      rfl
    have hcomma (s : List Char) : skipBlanks (',' :: s) = ',' :: s := rfl
    simp only [further_cons, hcomma, hnext]
    rw [readMembers_entry hpart (by omega), ih hpart _ fuel (by omega)]
    rfl

/-! ## Blocks -/

theorem printBlock_cons_append (opening closing : Char) (level : Nat) (first : List Char)
    (parts : List (List Char)) (rest : List Char) :
    printBlock opening closing level (first :: parts) ++ rest = opening :: (newline (level + 1) ++
      (first ++ (further (level + 1) parts ++ (newline level ++ closing :: rest)))) := by
  simp [printBlock, further]

theorem length_printBlock_cons (opening closing : Char) (level : Nat) (first : List Char)
    (parts : List (List Char)) : first.length + (further (level + 1) parts).length + 2 ≤
      (printBlock opening closing level (first :: parts)).length := by
  have hblock := printBlock_cons_append opening closing level first parts []
  rw [List.append_nil] at hblock
  simp [hblock]
  omega

theorem return_not_mem_printBlock {opening closing : Char} {level : Nat} {parts : List (List Char)}
    (hopening : opening ≠ '\r') (hclosing : closing ≠ '\r')
    (hparts : ∀ part ∈ parts, '\r' ∉ part) : '\r' ∉ printBlock opening closing level parts := by
  cases parts with
  | nil => simp [printBlock, Ne.symm hopening, Ne.symm hclosing]
  | cons first parts =>
    obtain ⟨hfirst, hparts⟩ := List.forall_mem_cons.1 hparts
    have hfurther : '\r' ∉ further (level + 1) parts := by
      intro h
      obtain ⟨part, hpart, h⟩ := List.mem_flatMap.1 h
      simp [return_not_mem_newline, hparts part hpart] at h
    have hblock := printBlock_cons_append opening closing level first parts []
    rw [List.append_nil] at hblock
    simp [hblock, Ne.symm hopening, Ne.symm hclosing, return_not_mem_newline, hfirst, hfurther]

theorem IsEntryOf.return_not_mem {e : Scalar × Value} {part : List Char} (h : IsEntryOf e part) :
    '\r' ∉ part := by
  obtain ⟨name, cs, -, rfl, hvalue⟩ := h
  simp [return_not_mem_printString, hvalue.return_not_mem]

theorem isWhole_newline (level : Nat) : IsWhole (newline level) :=
  isWhole_of_not_mem (by simp [newline])

theorem isWhole_printBlock {opening closing : Char} {level : Nat} {parts : List (List Char)}
    (hopening : opening ≠ '\\') (hclosing : closing ≠ '\\')
    (hparts : ∀ part ∈ parts, IsWhole part) : IsWhole (printBlock opening closing level parts) := by
  have hend : IsWhole [closing] := isWhole_of_not_mem (by simpa using Ne.symm hclosing)
  cases parts with
  | nil => exact isWhole_of_not_mem (by simp [printBlock, Ne.symm hopening, Ne.symm hclosing])
  | cons first parts =>
    obtain ⟨hfirst, hparts⟩ := List.forall_mem_cons.1 hparts
    have hstart : IsWhole [opening] := isWhole_of_not_mem (by simpa using Ne.symm hopening)
    have hcomma : IsWhole [','] := isWhole_of_not_mem (by decide)
    have hfurther : IsWhole (further (level + 1) parts) := isWhole_flatMap fun part hpart =>
      (hcomma.append (isWhole_newline _)).append (hparts part hpart)
    exact ((((hstart.append (isWhole_newline _)).append hfirst).append hfurther).append
      (isWhole_newline _)).append hend

theorem IsEntryOf.isWhole {e : Scalar × Value} {part : List Char} (h : IsEntryOf e part) :
    IsWhole part := by
  obtain ⟨name, cs, -, rfl, hvalue⟩ := h
  have hcolon : IsWhole [':', ' '] := isWhole_of_not_mem (by decide)
  exact (isWhole_printString name).append (hcolon.append hvalue.whole)

theorem forall_part_of_forall₂ {α : Type} {R : α → List Char → Prop} {P : List Char → Prop}
    {xs : List α} {parts : List (List Char)} (hR : ∀ x part, R x part → P part)
    (h : List.Forall₂ R xs parts) : ∀ part ∈ parts, P part := by
  induction h with
  | nil => simp
  | cons hpart _ ih => exact List.forall_mem_cons.2 ⟨hR _ _ hpart, ih⟩

theorem isTextOf_list {items : List Value} {parts : List (List Char)}
    (h : List.Forall₂ IsTextOf items parts) (level : Nat) :
    IsTextOf (.list items) (printBlock '[' ']' level parts) where
  head := by
    cases parts with
    | nil => exact ⟨'[', _, rfl, .inr (.inl rfl)⟩
    | cons first parts => exact ⟨'[', _, rfl, .inr (.inl rfl)⟩
  return_not_mem := return_not_mem_printBlock (by decide) (by decide)
    (forall_part_of_forall₂ (fun _ _ hpart => hpart.return_not_mem) h)
  whole := isWhole_printBlock (by decide) (by decide)
    (forall_part_of_forall₂ (fun _ _ hpart => hpart.whole) h)
  read := by
    intro fuel rest hfuel
    cases h with
    | nil =>
      obtain ⟨fuel, rfl⟩ : ∃ n, fuel = n + 1 := ⟨fuel - 1, by simp [printBlock] at hfuel; omega⟩
      rfl
    | @cons v first items parts hfirst hparts =>
      have hlength := length_printBlock_cons '[' ']' level first parts
      obtain ⟨fuel, rfl⟩ : ∃ n, fuel = n + 1 := ⟨fuel - 1, by omega⟩
      have hopened (s : List Char) :
          skipBlanks (newline (level + 1) ++ (first ++ s)) = first ++ s := by
        rw [skipBlanks_newline, hfirst.skipBlanks_eq]
      have hitems : readItems fuel (first ++ (further (level + 1) parts ++
          (newline level ++ ']' :: rest))) = .ok (v :: items, rest) :=
        readItems_further hparts hfirst (by omega) rest
      obtain ⟨c, tail, hhead, hc⟩ := hfirst.head
      have hclosing : c ≠ ']' := by
        rintro rfl
        simp at hc
      rw [printBlock_cons_append, readValue, hopened]
      rw [hhead, List.cons_append] at hitems ⊢
      simp [hclosing, hitems, Except.map]

theorem isTextOf_map {entries : Entries Value} {parts : List (List Char)}
    (hdistinct : entries.IsDistinct) (h : List.Forall₂ IsEntryOf entries parts) (level : Nat) :
    IsTextOf (.map entries) (printBlock '\x7b' '\x7d' level parts) where
  head := by
    cases parts with
    | nil => exact ⟨'\x7b', _, rfl, .inr (.inr rfl)⟩
    | cons first parts => exact ⟨'\x7b', _, rfl, .inr (.inr rfl)⟩
  return_not_mem := return_not_mem_printBlock (by decide) (by decide)
    (forall_part_of_forall₂ (fun _ _ hpart => hpart.return_not_mem) h)
  whole := isWhole_printBlock (by decide) (by decide)
    (forall_part_of_forall₂ (fun _ _ hpart => hpart.isWhole) h)
  read := by
    intro fuel rest hfuel
    cases h with
    | nil =>
      obtain ⟨fuel, rfl⟩ : ∃ n, fuel = n + 1 := ⟨fuel - 1, by simp [printBlock] at hfuel; omega⟩
      rfl
    | @cons e first entries parts hfirst hparts =>
      have hlength := length_printBlock_cons '\x7b' '\x7d' level first parts
      obtain ⟨fuel, rfl⟩ : ∃ n, fuel = n + 1 := ⟨fuel - 1, by omega⟩
      have hmembers : readMembers fuel [] (first ++ (further (level + 1) parts ++
          (newline level ++ '\x7d' :: rest))) = .ok (e :: entries, rest) := by
        rw [readMembers_further hparts hfirst (by omega), Entries.merge_eq_append hdistinct]
        rfl
      obtain ⟨tail, hhead⟩ := hfirst.head
      rw [hhead, List.cons_append] at hmembers
      have hquote (s : List Char) : skipBlanks ('"' :: s) = '"' :: s := rfl
      rw [printBlock_cons_append, readValue, skipBlanks_newline, hhead, List.cons_append, hquote]
      simp [hmembers, Except.map]

/-! ## Writing and reading -/

theorem forall₂_of_printItems {level : Nat} {items : List Value} {parts : List (List Char)}
    (h : ∀ v ∈ items, ∀ cs, printValue level v = .ok cs → IsTextOf v cs)
    (hparts : printItems level items = .ok parts) : List.Forall₂ IsTextOf items parts := by
  induction items generalizing parts with
  | nil =>
    cases hparts
    exact .nil
  | cons v items ih =>
    obtain ⟨hv, hitems⟩ := List.forall_mem_cons.1 h
    rw [printItems] at hparts
    obtain ⟨part, hpart, hparts⟩ := Outcome.bind_eq_ok.1 hparts
    obtain ⟨rest, hrest, hparts⟩ := Outcome.bind_eq_ok.1 hparts
    cases hparts
    exact .cons (hv _ hpart) (ih hitems hrest)

theorem forall₂_of_printEntries {level : Nat} {entries : Entries Value} {parts : List (List Char)}
    (hnames : ∀ e ∈ entries, ∃ name, e.1 = .text name)
    (h : ∀ e ∈ entries, ∀ cs, printValue level e.2 = .ok cs → IsTextOf e.2 cs)
    (hparts : printEntries level entries = .ok parts) : List.Forall₂ IsEntryOf entries parts := by
  induction entries generalizing parts with
  | nil =>
    cases hparts
    exact .nil
  | cons e entries ih =>
    obtain ⟨key, v⟩ := e
    obtain ⟨⟨name, hname⟩, hmore⟩ := List.forall_mem_cons.1 hnames
    obtain ⟨hv, hentries⟩ := List.forall_mem_cons.1 h
    cases hname
    rw [printEntries] at hparts
    obtain ⟨name', hname', hparts⟩ := Outcome.bind_eq_ok.1 hparts
    cases hname'
    obtain ⟨part, hpart, hparts⟩ := Outcome.bind_eq_ok.1 hparts
    obtain ⟨rest, hrest, hparts⟩ := Outcome.bind_eq_ok.1 hparts
    cases hparts
    exact .cons ⟨name, part, rfl, rfl, hv _ hpart⟩ (ih hmore hentries hrest)

/-- A value that is made of texts is read from its text, at any level. -/
theorem isTextOf_printValue {v : Value} (h : v.IsTextual) :
    ∀ level cs, printValue level v = .ok cs → IsTextOf v cs := by
  induction h with
  | text s =>
    intro level cs hcs
    cases hcs
    exact isTextOf_printString s
  | list hitems ih =>
    intro level cs hcs
    rw [printValue] at hcs
    obtain ⟨parts, hparts, hcs⟩ := Outcome.bind_eq_ok.1 hcs
    cases hcs
    exact isTextOf_list (forall₂_of_printItems (fun v hv => ih v hv _) hparts) level
  | map hdistinct hnames hvalues ih =>
    intro level cs hcs
    rw [printValue] at hcs
    obtain ⟨parts, hparts, hcs⟩ := Outcome.bind_eq_ok.1 hcs
    cases hcs
    exact isTextOf_map hdistinct (forall₂_of_printEntries hnames (fun e he => ih e he _) hparts)
      level

/-- A document that consists of the text of a value and blanks gives the value. -/
theorem IsTextOf.read_eq {v : Value} {cs blanks : List Char} (h : IsTextOf v cs)
    (hblanks : ∀ c ∈ blanks, isBlank c = true) :
    Json.read (String.ofList (cs ++ blanks)) = .ok v := by
  have hmark : ¬ (cs ++ blanks).head? = some (Char.ofNat 0xFEFF) := by
    obtain ⟨c, rest, rfl, hc⟩ := h.head
    rw [List.cons_append, List.head?_cons, Option.some.injEq]
    rcases hc with rfl | rfl | rfl
    · decide
    · decide
    · decide
  have hend : skipBlanks blanks = [] := List.dropWhile_eq_nil_iff.2 hblanks
  have hread : readValue (2 * (cs ++ blanks).length + 2) (cs ++ blanks) = .ok (v, blanks) :=
    h.read _ _ (by simp; omega)
  have hdocument : readDocument (cs ++ blanks) = .ok v := by
    unfold readDocument
    rw [if_neg hmark, h.skipBlanks_eq]
    dsimp only
    rw [hread, Outcome.ok_bind]
    simp only [hend]
    rfl
  have hwhole : hasLoneSurrogate 0 (cs ++ blanks) = false := by
    have hslash : '\\' ∉ blanks := fun h => absurd (hblanks _ h) (by decide)
    have hblank := isWhole_of_not_mem hslash []
    rw [List.append_nil] at hblank
    exact (h.whole blanks).trans hblank
  rw [Json.read, String.toList_ofList, hdocument]
  simp [hwhole]

/-- **Reading what has been written.** -/
theorem read_print {v : Value} {text : String} (h : v.IsTextual) (hprint : print v = .ok text) :
    Json.read text = .ok v ∧ Json.read (text ++ "\n") = .ok v ∧ '\r' ∉ text.toList := by
  obtain ⟨cs, hcs, rfl⟩ := Outcome.map_eq_ok.1 hprint
  have htext := isTextOf_printValue h 0 cs hcs
  have hline : String.ofList cs ++ "\n" = String.ofList (cs ++ ['\n']) := by simp
  have halone : Json.read (String.ofList (cs ++ [])) = .ok v := htext.read_eq (by simp)
  rw [List.append_nil] at halone
  refine ⟨halone, ?_, by simpa using htext.return_not_mem⟩
  rw [hline]
  exact htext.read_eq (by simp [isBlank])

end Json

end LogSift
