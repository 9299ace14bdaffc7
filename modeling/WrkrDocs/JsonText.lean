import WrkrDocs.StructuredData

/-!
# The text of the descriptors

The home page does not embed the descriptors as values.  It embeds
`JSON.stringify(descriptor)` as the text of a `<script type="application/ld+json">`
element, and a crawler reads that text back with a JSON reader.  This module models both
ends.

`Json.stringify` is `JSON.stringify` with no replacer and no indentation, as ECMA-262
defines it, on the values the descriptors hold.  `QuoteJSONString` writes a string between
quotes: the seven characters of its table as two-character escapes, the other characters
below `0x20` as `\u00XX` with lowercase digits, every other character as itself.  A Lean
`Char` is a Unicode scalar value, so the lone-surrogate branch of `QuoteJSONString` cannot
arise.  `SerializeJSONObject` and `SerializeJSONArray` write members and elements separated
by `,`, with no whitespace.  The serializer is written with the separators and the closing
bracket in a tail function, as the reader consumes them.

`readJson` is a JSON reader after RFC 8259, for texts whose values are strings, objects and
arrays.  It skips whitespace around every value and token, and decodes every escape,
`\uXXXX` surrogate pairs included.  It reads with fuel and is given the text's length, which
is always enough: a value's text is at least as long as the nesting the reader walks, and a
string's text at least as long as the string.

`readJson_stringify` is the round trip: the reader gives back every value the serializer
writes.  The proof reads a value followed by any text (`readValue_serialize`), one
constructor at a time, and a string one character at a time (`readUnit_quoteChar`).

`Json.count_stringify` says what else the serializer writes.  Apart from the quotes,
brackets, separators, the backslash and the letters and digits of escapes, a character
stands in the text exactly as often as in the value's keys and strings.  `<` is such a
character, so a script element holding the text can only be closed early by a `<` in the
data.
-/

namespace WrkrDocs

/-! ## `JSON.stringify` -/

/-- A hexadecimal digit, in lowercase. -/
def hexDigit (d : Nat) : Char := if d < 10 then Char.ofNat (48 + d) else Char.ofNat (87 + d)

/-- `UnicodeEscape`: `\u` and four lowercase hexadecimal digits. -/
def unicodeEscape (n : Nat) : List Char :=
  ['\\', 'u', hexDigit (n / 4096 % 16), hexDigit (n / 256 % 16), hexDigit (n / 16 % 16),
    hexDigit (n % 16)]

/-- `QuoteJSONString` on one code point. -/
def quoteChar (c : Char) : List Char :=
  match c with
  | '\x08' => ['\\', 'b']
  | '\t' => ['\\', 't']
  | '\n' => ['\\', 'n']
  | '\x0c' => ['\\', 'f']
  | '\r' => ['\\', 'r']
  | '"' => ['\\', '"']
  | '\\' => ['\\', '\\']
  | c => if c.toNat < 0x20 then unicodeEscape c.toNat else [c]

/-- `QuoteJSONString`: the string between quotes, each code point quoted. -/
def quote (s : String) : List Char := '"' :: (s.data.flatMap quoteChar ++ ['"'])

mutual
/-- `SerializeJSONProperty` on a value. -/
def Json.serialize : Json → List Char
  | .str s => quote s
  | .obj [] => ['{', '}']
  | .obj ((key, value) :: fields) =>
    '{' :: (quote key ++ ':' :: (value.serialize ++ serializeMembersTail fields))
  | .arr [] => ['[', ']']
  | .arr (item :: items) => '[' :: (item.serialize ++ serializeItemsTail items)

/-- The elements of an array after the first, each after a `,`, then `]`. -/
def serializeItemsTail : List Json → List Char
  | [] => [']']
  | item :: items => ',' :: (item.serialize ++ serializeItemsTail items)

/-- The members of an object after the first, each after a `,`, then `}`. -/
def serializeMembersTail : List (String × Json) → List Char
  | [] => ['}']
  | (key, value) :: fields =>
    ',' :: (quote key ++ ':' :: (value.serialize ++ serializeMembersTail fields))
end

/-- `JSON.stringify`. -/
def Json.stringify (v : Json) : String := ⟨v.serialize⟩

/-! ## Reading JSON text -/

/-- Whitespace between tokens: space, tab, line feed, carriage return. -/
def isWs (c : Char) : Bool := c = ' ' || c = '\t' || c = '\n' || c = '\r'

/-- The input after its leading whitespace. -/
def skipWs : List Char → List Char
  | [] => []
  | c :: cs => if isWs c then skipWs cs else c :: cs

/-- The value of a hexadecimal digit, in either case. -/
def hexValue (c : Char) : Option Nat :=
  if '0' ≤ c ∧ c ≤ '9' then some (c.toNat - 48)
  else if 'a' ≤ c ∧ c ≤ 'f' then some (c.toNat - 87)
  else if 'A' ≤ c ∧ c ≤ 'F' then some (c.toNat - 55)
  else none

/-- The number four hexadecimal digits write. -/
def readHex4 (a b c d : Char) : Option Nat := do
  let a ← hexValue a
  let b ← hexValue b
  let c ← hexValue c
  let d ← hexValue d
  pure (((a * 16 + b) * 16 + c) * 16 + d)

/-- The character a one-letter escape stands for. -/
def escapeChar : Char → Option Char
  | '"' => some '"'
  | '\\' => some '\\'
  | '/' => some '/'
  | 'b' => some '\x08'
  | 'f' => some '\x0c'
  | 'n' => some '\n'
  | 'r' => some '\r'
  | 't' => some '\t'
  | _ => none

/-- The character a `\u` escape of a high surrogate stands for, with the escape of a low
surrogate that must follow it, and what follows that. -/
def readLowSurrogate (high : Nat) : List Char → Option (Char × List Char)
  | '\\' :: 'u' :: a :: b :: c :: d :: rest =>
    (readHex4 a b c d).bind fun low =>
      if 0xDC00 ≤ low ∧ low < 0xE000 then
        some (Char.ofNat (0x10000 + (high - 0xD800) * 0x400 + (low - 0xDC00)), rest)
      else none
  | _ => none

/-- The character an escape stands for, read after its backslash, and what follows it. -/
def readEscape : List Char → Option (Char × List Char)
  | 'u' :: a :: b :: c :: d :: rest =>
    (readHex4 a b c d).bind fun n =>
      if n < 0xD800 ∨ 0xE000 ≤ n then some (Char.ofNat n, rest)
      else if 0xDC00 ≤ n then none
      else readLowSurrogate n rest
  | e :: rest => (escapeChar e).map fun ch => (ch, rest)
  | [] => none

/-- One character of a string and what follows it, or `none` for the closing quote.  A
control character must be escaped. -/
def readUnit : List Char → Option (Option Char × List Char)
  | [] => none
  | c :: rest =>
    if c = '"' then some (none, rest)
    else if c = '\\' then (readEscape rest).map fun (ch, r) => (some ch, r)
    else if c.toNat < 0x20 then none
    else some (some c, rest)

/-- Put a character in front of what the rest of a string reads to. -/
def prepend (c : Char) : Option (List Char × List Char) → Option (List Char × List Char) :=
  Option.map fun (cs, rest) => (c :: cs, rest)

/-- The characters of a string, after its opening quote and up to its closing quote, and
what follows; `fuel` bounds the number of characters. -/
def readChars : Nat → List Char → Option (List Char × List Char)
  | 0, _ => none
  | fuel + 1, input =>
    match readUnit input with
    | some (some c, rest) => prepend c (readChars fuel rest)
    | some (none, rest) => some ([], rest)
    | none => none

/-- The characters of a string after its opening quote, and what follows its closing quote.
Every character takes at least one character of the input, so the input's length is fuel
enough. -/
def readString (input : List Char) : Option (List Char × List Char) :=
  readChars input.length input

/-- The input after the token `t` and the whitespace before it, if it starts so. -/
def token (t : Char) (input : List Char) : Option (List Char) :=
  match skipWs input with
  | c :: rest => if c = t then some rest else none
  | [] => none

/-- An object member: a string, `:`, and a value read by `readValue`. -/
def readMember (readValue : List Char → Option (Json × List Char)) (input : List Char) :
    Option ((String × Json) × List Char) := do
  let rest ← token '"' input
  let (key, r) ← readString rest
  let r' ← token ':' r
  let (value, r'') ← readValue r'
  pure ((⟨key⟩, value), r'')

mutual
/-- A value and the whitespace after it, read after whitespace, and what follows; `fuel`
bounds the nesting. -/
def readValue : Nat → List Char → Option (Json × List Char)
  | 0, _ => none
  | fuel + 1, input =>
    match skipWs input with
    | [] => none
    | c :: rest =>
      if c = '"' then (readString rest).map fun (cs, r) => (.str ⟨cs⟩, skipWs r)
      else if c = '[' then
        match token ']' rest with
        | some r => some (.arr [], skipWs r)
        | none => do
          let (item, r) ← readValue fuel rest
          let (items, r') ← readItemsTail fuel r
          pure (.arr (item :: items), r')
      else if c = '{' then
        match token '}' rest with
        | some r => some (.obj [], skipWs r)
        | none => do
          let (field, r) ← readMember (readValue fuel) rest
          let (fields, r') ← readMembersTail fuel r
          pure (.obj (field :: fields), r')
      else none

/-- The rest of an array after an element: `]`, or `,` and an element and the rest. -/
def readItemsTail : Nat → List Char → Option (List Json × List Char)
  | 0, _ => none
  | fuel + 1, input =>
    match input with
    | [] => none
    | c :: rest =>
      if c = ']' then some ([], skipWs rest)
      else if c = ',' then do
        let (item, r) ← readValue fuel rest
        let (items, r') ← readItemsTail fuel r
        pure (item :: items, r')
      else none

/-- The rest of an object after a member: `}`, or `,` and a member and the rest. -/
def readMembersTail : Nat → List Char → Option (List (String × Json) × List Char)
  | 0, _ => none
  | fuel + 1, input =>
    match input with
    | [] => none
    | c :: rest =>
      if c = '}' then some ([], skipWs rest)
      else if c = ',' then do
        let (field, r) ← readMember (readValue fuel) rest
        let (fields, r') ← readMembersTail fuel r
        pure (field :: fields, r')
      else none
end

/-- `JSON.parse` on texts of strings, objects and arrays: one value and nothing after it. -/
def readJson (text : String) : Option Json :=
  match readValue text.length text.data with
  | some (v, []) => some v
  | _ => none

/-! ## Reading a quoted string back -/

theorem hexValue_hexDigit {d : Nat} (hd : d < 16) : hexValue (hexDigit d) = some d := by
  have digits : ∀ d : Fin 16, hexValue (hexDigit d) = some d := by decide
  exact digits ⟨d, hd⟩

theorem readHex4_hexDigits {n : Nat} (hn : n < 0x10000) :
    readHex4 (hexDigit (n / 4096 % 16)) (hexDigit (n / 256 % 16)) (hexDigit (n / 16 % 16))
      (hexDigit (n % 16)) = some n := by
  simp only [readHex4, hexValue_hexDigit (Nat.mod_lt _ (by decide : 16 > 0)), Option.pure_def,
    Option.bind_eq_bind, Option.some_bind, Option.some.injEq]
  omega

/-- Each escape `quoteChar` writes reads back as the character it escapes. -/
theorem readUnit_quoteChar (c : Char) (rest : List Char) :
    readUnit (quoteChar c ++ rest) = some (some c, rest) := by
  unfold quoteChar
  split
  -- the seven two-character escapes
  iterate 7 rfl
  next _ _ _ _ _ _ not_quote not_backslash =>
    split
    next control =>
      simp [unicodeEscape, readUnit, readEscape,
        readHex4_hexDigits (show c.toNat < 0x10000 by omega), show c.toNat < 0xD800 by omega]
    next plain =>
      rw [List.singleton_append, readUnit, if_neg not_quote, if_neg not_backslash, if_neg plain]

theorem length_le_flatMap_quoteChar (cs : List Char) :
    cs.length ≤ (cs.flatMap quoteChar).length := by
  induction cs with
  | nil => simp
  | cons c cs ih =>
    have : 0 < (quoteChar c).length := by
      unfold quoteChar; split <;> (try split) <;> simp [unicodeEscape]
    simp only [List.flatMap_cons, List.length_append, List.length_cons]
    omega

theorem readChars_quoted (cs rest : List Char) (fuel : Nat) (h : cs.length < fuel) :
    readChars fuel (cs.flatMap quoteChar ++ '"' :: rest) = some (cs, rest) := by
  obtain ⟨fuel, rfl⟩ : ∃ f, fuel = f + 1 := ⟨fuel - 1, by omega⟩
  cases cs with
  | nil => rfl
  | cons c cs =>
    simp only [List.flatMap_cons, List.append_assoc, readChars, readUnit_quoteChar]
    rw [readChars_quoted cs rest fuel (Nat.lt_of_succ_lt_succ h)]
    rfl

theorem readString_quoted (cs rest : List Char) :
    readString (cs.flatMap quoteChar ++ '"' :: rest) = some (cs, rest) :=
  readChars_quoted cs rest _ (by
    have := length_le_flatMap_quoteChar cs
    simp only [List.length_append, List.length_cons]
    omega)

/-! ## The round trip -/

theorem quote_append (s : String) (r : List Char) :
    quote s ++ r = '"' :: (s.data.flatMap quoteChar ++ '"' :: r) := by
  simp [quote]

theorem readMember_quote (read : List Char → Option (Json × List Char)) (key : String)
    (rest : List Char) :
    readMember read (quote key ++ ':' :: rest) =
      (read rest).map fun (value, r) => ((key, value), r) := by
  simp [quote_append, readMember, token, skipWs, isWs, readString_quoted]
  cases read rest <;> rfl

/-- Every serialization starts with the character that opens its kind of value. -/
theorem Json.serialize_eq_cons (v : Json) :
    ∃ c cs, v.serialize = c :: cs ∧ (c = '"' ∨ c = '[' ∨ c = '{') := by
  match v with
  | .str _ => exact ⟨_, _, rfl, .inl rfl⟩
  | .obj [] | .obj (_ :: _) => exact ⟨_, _, rfl, .inr (.inr rfl)⟩
  | .arr [] | .arr (_ :: _) => exact ⟨_, _, rfl, .inr (.inl rfl)⟩

theorem token_serialize {t : Char} (ht : t ≠ '"' ∧ t ≠ '[' ∧ t ≠ '{') (v : Json)
    (r : List Char) : token t (v.serialize ++ r) = none := by
  obtain ⟨c, cs, hv, hc⟩ := v.serialize_eq_cons
  rw [hv]
  rcases hc with rfl | rfl | rfl <;> simp [token, skipWs, isWs, ht.1.symm, ht.2.1.symm, ht.2.2.symm]

theorem token_quote {t : Char} (ht : t ≠ '"') (s : String) (r : List Char) :
    token t (quote s ++ r) = none := by
  simp [quote_append, token, skipWs, isWs, ht.symm]

theorem skipWs_serializeItemsTail (items : List Json) (r : List Char) :
    skipWs (serializeItemsTail items ++ r) = serializeItemsTail items ++ r := by
  cases items <;> rfl

theorem skipWs_serializeMembersTail (fields : List (String × Json)) (r : List Char) :
    skipWs (serializeMembersTail fields ++ r) = serializeMembersTail fields ++ r := by
  cases fields <;> rfl

mutual
/-- The reader gives back every value the serializer writes, whatever follows it, given the
serialization's length as fuel. -/
theorem readValue_serialize : ∀ (v : Json) (fuel : Nat) (r : List Char),
    v.serialize.length ≤ fuel → readValue fuel (v.serialize ++ r) = some (v, skipWs r)
  | v, 0, _, h => absurd h (by obtain ⟨_, _, hv, -⟩ := v.serialize_eq_cons; simp [hv])
  | .str s, _ + 1, r, _ => by
    simp [Json.serialize, quote_append, readValue, skipWs, isWs, readString_quoted]
  | .obj [], _ + 1, r, _ | .arr [], _ + 1, r, _ => by
    simp [Json.serialize, readValue, skipWs, isWs, token]
  | .obj ((key, value) :: fields), fuel + 1, r, h => by
    simp only [Json.serialize, List.length_cons, List.length_append] at h
    have hv := readValue_serialize value fuel (serializeMembersTail fields ++ r) (by omega)
    have ht := readMembersTail_serialize fields fuel r (by omega)
    simp [Json.serialize, readValue, skipWs, isWs, token_quote, readMember_quote, hv,
      skipWs_serializeMembersTail, ht]
  | .arr (item :: items), fuel + 1, r, h => by
    simp only [Json.serialize, List.length_cons, List.length_append] at h
    have hv := readValue_serialize item fuel (serializeItemsTail items ++ r) (by omega)
    have ht := readItemsTail_serialize items fuel r (by omega)
    simp [Json.serialize, readValue, skipWs, isWs, token_serialize, hv, skipWs_serializeItemsTail,
      ht]

theorem readItemsTail_serialize : ∀ (items : List Json) (fuel : Nat) (r : List Char),
    (serializeItemsTail items).length ≤ fuel →
      readItemsTail fuel (serializeItemsTail items ++ r) = some (items, skipWs r)
  | items, 0, _, h => absurd h (by cases items <;> simp [serializeItemsTail])
  | [], _ + 1, r, _ => by simp [serializeItemsTail, readItemsTail]
  | item :: items, fuel + 1, r, h => by
    simp only [serializeItemsTail, List.length_cons, List.length_append] at h
    have hv := readValue_serialize item fuel (serializeItemsTail items ++ r) (by omega)
    have ht := readItemsTail_serialize items fuel r (by omega)
    simp [serializeItemsTail, readItemsTail, hv, skipWs_serializeItemsTail, ht]

theorem readMembersTail_serialize :
    ∀ (fields : List (String × Json)) (fuel : Nat) (r : List Char),
    (serializeMembersTail fields).length ≤ fuel →
      readMembersTail fuel (serializeMembersTail fields ++ r) = some (fields, skipWs r)
  | fields, 0, _, h => absurd h (by cases fields <;> simp [serializeMembersTail])
  | [], _ + 1, r, _ => by simp [serializeMembersTail, readMembersTail]
  | (key, value) :: fields, fuel + 1, r, h => by
    simp only [serializeMembersTail, List.length_cons, List.length_append] at h
    have hv := readValue_serialize value fuel (serializeMembersTail fields ++ r) (by omega)
    have ht := readMembersTail_serialize fields fuel r (by omega)
    simp [serializeMembersTail, readMembersTail, readMember_quote, hv,
      skipWs_serializeMembersTail, ht]
end

theorem readValue_stringify (v : Json) :
    readValue v.stringify.length v.stringify.data = some (v, []) := by
  simpa [skipWs] using readValue_serialize v v.serialize.length [] le_rfl

/-- A JSON reader gives back every value `JSON.stringify` writes. -/
theorem readJson_stringify (v : Json) : readJson v.stringify = some v := by
  rw [readJson, readValue_stringify]

/-- The reader also takes whitespace and escapes the serializer does not write. -/
example : (readJson "\x7b\"a\": [\"x\\u0041\\n\", \x7b\x7d], \"b\" : \"\\ud83d\\ude00\"\x7d").map
      Json.stringify = some "\x7b\"a\":[\"xA\\n\",\x7b\x7d],\"b\":\"😀\"\x7d" := by decide

/-! ## What the serializer writes of its own -/

/-- The characters `JSON.stringify` writes of its own: quotes, brackets, separators and the
backslash, and the letters and digits of its escapes. -/
def stringifyMarkup : List Char :=
  ['"', '\\', '{', '}', '[', ']', ':', ',', 'b', 't', 'n', 'f', 'r', 'u',
    '0', '1', '2', '3', '4', '5', '6', '7', '8', '9', 'a', 'c', 'd', 'e']

/-- A character that `JSON.stringify` writes exactly where the data has it: neither a control
character nor one of its own. -/
def Verbatim (c : Char) : Prop := 0x20 ≤ c.toNat ∧ c ∉ stringifyMarkup

instance (c : Char) : Decidable (Verbatim c) := inferInstanceAs (Decidable (_ ∧ _))

mutual
/-- The characters of a value's keys and strings, in the order `JSON.stringify` writes them. -/
def Json.chars : Json → List Char
  | .str s => s.data
  | .obj [] => []
  | .obj ((key, value) :: fields) => key.data ++ (value.chars ++ membersTailChars fields)
  | .arr [] => []
  | .arr (item :: items) => item.chars ++ itemsTailChars items

/-- The characters of the elements of an array after the first. -/
def itemsTailChars : List Json → List Char
  | [] => []
  | item :: items => item.chars ++ itemsTailChars items

/-- The characters of the members of an object after the first. -/
def membersTailChars : List (String × Json) → List Char
  | [] => []
  | (key, value) :: fields => key.data ++ (value.chars ++ membersTailChars fields)
end

theorem hexDigit_mem_markup {d : Nat} (hd : d < 16) : hexDigit d ∈ stringifyMarkup := by
  have digits : ∀ d : Fin 16, hexDigit d ∈ stringifyMarkup := by decide
  exact digits ⟨d, hd⟩

section Verbatim

variable {c : Char} (hc : Verbatim c)
include hc

theorem count_eq_zero_of_markup {l : List Char} (hl : ∀ x ∈ l, x ∈ stringifyMarkup) :
    l.count c = 0 :=
  List.count_eq_zero.mpr fun hcl => hc.2 (hl c hcl)

theorem count_markup_cons {x : Char} (hx : x ∈ stringifyMarkup) (l : List Char) :
    (x :: l).count c = l.count c := by
  have hxc : (x == c) = false := beq_false_of_ne fun hxc => hc.2 (hxc ▸ hx)
  rw [List.count_cons, hxc]
  rfl

theorem count_control {d : Char} (hd : d.toNat < 0x20) : [d].count c = 0 :=
  List.count_eq_zero.mpr fun hcd => by
    rw [List.mem_singleton.mp hcd] at hc
    exact absurd hc.1 (by omega)

/-- `quoteChar` writes a verbatim character where its input is that character, and nowhere
else. -/
theorem count_quoteChar (d : Char) : (quoteChar d).count c = [d].count c := by
  unfold quoteChar
  split
  iterate 5 rw [count_eq_zero_of_markup hc (by decide), count_control hc (by decide)]
  iterate 2 rw [count_eq_zero_of_markup hc (by decide), count_eq_zero_of_markup hc (by decide)]
  split
  next control =>
    have hex (n : Nat) : hexDigit (n % 16) ∈ stringifyMarkup :=
      hexDigit_mem_markup (Nat.mod_lt _ (by decide))
    rw [count_control hc control, count_eq_zero_of_markup hc]
    simp only [unicodeEscape, List.forall_mem_cons]
    exact ⟨by decide, by decide, hex _, hex _, hex _, hex _, List.forall_mem_nil _⟩
  next => rfl

theorem count_flatMap_quoteChar (cs : List Char) :
    (cs.flatMap quoteChar).count c = cs.count c := by
  induction cs with
  | nil => rfl
  | cons d cs ih =>
    rw [List.flatMap_cons, List.count_append, count_quoteChar hc, ih, ← List.count_append]
    rfl

theorem count_quote_append (s : String) (r : List Char) :
    (quote s ++ r).count c = s.data.count c + r.count c := by
  rw [quote_append, count_markup_cons hc (by decide), List.count_append,
    count_flatMap_quoteChar hc, count_markup_cons hc (by decide)]

mutual
theorem Json.count_serialize : ∀ v : Json, v.serialize.count c = v.chars.count c
  | .str s => by simpa using count_quote_append hc s []
  | .obj [] | .arr [] => count_eq_zero_of_markup hc (by decide)
  | .obj ((key, value) :: fields) => by
    rw [Json.serialize, count_markup_cons hc (by decide), count_quote_append hc,
      count_markup_cons hc (by decide), List.count_append, value.count_serialize,
      count_serializeMembersTail fields]
    simp only [Json.chars, List.count_append]
  | .arr (item :: items) => by
    rw [Json.serialize, count_markup_cons hc (by decide), List.count_append, item.count_serialize,
      count_serializeItemsTail items]
    simp only [Json.chars, List.count_append]

theorem count_serializeItemsTail :
    ∀ items : List Json, (serializeItemsTail items).count c = (itemsTailChars items).count c
  | [] => count_eq_zero_of_markup hc (by decide)
  | item :: items => by
    rw [serializeItemsTail, count_markup_cons hc (by decide), List.count_append,
      item.count_serialize, count_serializeItemsTail items]
    simp only [itemsTailChars, List.count_append]

theorem count_serializeMembersTail : ∀ fields : List (String × Json),
    (serializeMembersTail fields).count c = (membersTailChars fields).count c
  | [] => count_eq_zero_of_markup hc (by decide)
  | (key, value) :: fields => by
    rw [serializeMembersTail, count_markup_cons hc (by decide), count_quote_append hc,
      count_markup_cons hc (by decide), List.count_append, value.count_serialize,
      count_serializeMembersTail fields]
    simp only [membersTailChars, List.count_append]
end

end Verbatim

/-- `JSON.stringify` writes each verbatim character exactly as often as the value's keys and
strings hold it.  `<` is verbatim, so the text of a descriptor holds a `<`, and can close its
script element, only where the descriptor's data does. -/
theorem Json.count_stringify (v : Json) {c : Char} (hc : Verbatim c) :
    v.stringify.data.count c = v.chars.count c :=
  v.count_serialize hc

end WrkrDocs
