import Mathlib.Data.List.Basic
import Mathlib.Tactic.Common

/-!
# Yakr.Lib.Json

**JSON text.** Values, the compact ASCII writer (`,` and `:` without spaces,
every character outside the printable ASCII range escaped) and a reader for the
whole grammar. An object keeps its entries in text order; a key that occurs twice
is looked up at its last entry. Numbers with a fraction or an exponent keep their
literal.

`parse_render` is the round trip for every value without such a literal.
-/

namespace Lib

/-- A JSON value. -/
inductive Json where
  | null
  | bool (b : Bool)
  | int (n : Int)
  /-- A number literal that is not an integer, or `NaN`, `Infinity`, `-Infinity`. -/
  | float (literal : String)
  | str (s : String)
  | arr (items : List Json)
  | obj (entries : List (String × Json))

namespace Json

/-- The value of a key of an entry list, its last occurrence. -/
def lookup (key : String) (entries : List (String × Json)) : Option Json :=
  entries.reverse.lookup key

/-! ### Writing -/

/-- The hexadecimal digit `n < 16`. -/
def hexChar (n : Nat) : Char := Nat.digitChar n

/-- Four hexadecimal digits. -/
def hex4 (n : Nat) : List Char :=
  [hexChar (n / 4096), hexChar (n / 256 % 16), hexChar (n / 16 % 16), hexChar (n % 16)]

/-- A character inside a string literal. -/
def escapeChar (c : Char) : List Char :=
  if c = '"' then ['\\', '"']
  else if c = '\\' then ['\\', '\\']
  else if c = '\n' then ['\\', 'n']
  else if c = '\r' then ['\\', 'r']
  else if c = '\t' then ['\\', 't']
  else if c = '\x08' then ['\\', 'b']
  else if c = '\x0c' then ['\\', 'f']
  else if 0x20 ≤ c.toNat ∧ c.toNat < 0x7f then [c]
  else if c.toNat < 0x10000 then '\\' :: 'u' :: hex4 c.toNat
  else
    ('\\' :: 'u' :: hex4 (0xD800 + (c.toNat - 0x10000) / 0x400))
      ++ '\\' :: 'u' :: hex4 (0xDC00 + (c.toNat - 0x10000) % 0x400)

/-- A string literal. -/
def renderStr (s : String) : List Char := '"' :: (s.toList.flatMap escapeChar ++ ['"'])

/-- An integer literal. -/
def renderInt : Int → List Char
  | .ofNat n => Nat.toDigits 10 n
  | .negSucc n => '-' :: Nat.toDigits 10 (n + 1)

mutual

/-- The compact text of a value. -/
def render : Json → List Char
  | null => ['n', 'u', 'l', 'l']
  | bool true => ['t', 'r', 'u', 'e']
  | bool false => ['f', 'a', 'l', 's', 'e']
  | int n => renderInt n
  | float literal => literal.toList
  | str s => renderStr s
  | arr [] => ['[', ']']
  | arr (v :: vs) => '[' :: (render v ++ renderMore vs)
  | obj [] => ['{', '}']
  | obj ((k, v) :: es) => '{' :: (renderStr k ++ ':' :: (render v ++ renderEntries es))

/-- The rest of an array after one item. -/
def renderMore : List Json → List Char
  | [] => [']']
  | v :: vs => ',' :: (render v ++ renderMore vs)

/-- The rest of an object after one entry. -/
def renderEntries : List (String × Json) → List Char
  | [] => ['}']
  | (k, v) :: es => ',' :: (renderStr k ++ ':' :: (render v ++ renderEntries es))

end

/-- The compact text of a value, as a string. -/
def dumps (v : Json) : String := String.ofList (render v)

/-! ### Reading -/

/-- White space between tokens. -/
def isWs (c : Char) : Bool := c = ' ' || c = '\t' || c = '\n' || c = '\r'

def skipWs (cs : List Char) : List Char := cs.dropWhile isWs

/-- The value of a hexadecimal digit. -/
def hexValue (c : Char) : Option Nat :=
  let n := c.toNat
  if 48 ≤ n ∧ n < 58 then some (n - 48)
  else if 97 ≤ n ∧ n < 103 then some (n - 87)
  else if 65 ≤ n ∧ n < 71 then some (n - 55)
  else none

/-- The value of four hexadecimal digits. -/
def hexValue4 (a b c d : Char) : Option Nat := do
  let a ← hexValue a
  let b ← hexValue b
  let c ← hexValue c
  let d ← hexValue d
  return a * 4096 + b * 256 + c * 16 + d

/-- The character of a one-letter escape. -/
def simpleEscape (e : Char) : Option Char :=
  if e = '"' then some '"'
  else if e = '\\' then some '\\'
  else if e = '/' then some '/'
  else if e = 'n' then some '\n'
  else if e = 'r' then some '\r'
  else if e = 't' then some '\t'
  else if e = 'b' then some '\x08'
  else if e = 'f' then some '\x0c'
  else none

def push (c : Char) (r : List Char × List Char) : List Char × List Char := (c :: r.1, r.2)

/-- The characters of a string literal after its opening quote, and what follows
the closing one. A lone surrogate escape is refused: it denotes no character. -/
def parseChars : List Char → Option (List Char × List Char)
  | [] => none
  | c :: rest =>
      if c = '"' then some ([], rest)
      else if c = '\\' then
        match rest with
        | [] => none
        | e :: rest1 =>
            if e = 'u' then
              match rest1 with
              | h1 :: h2 :: h3 :: h4 :: rest2 =>
                  match hexValue4 h1 h2 h3 h4 with
                  | none => none
                  | some n =>
                      if 0xD800 ≤ n ∧ n < 0xDC00 then
                        match rest2 with
                        | '\\' :: 'u' :: l1 :: l2 :: l3 :: l4 :: rest3 =>
                            match hexValue4 l1 l2 l3 l4 with
                            | none => none
                            | some m =>
                                if 0xDC00 ≤ m ∧ m < 0xE000 then
                                  (parseChars rest3).map (push (Char.ofNat
                                    (0x10000 + (n - 0xD800) * 0x400 + (m - 0xDC00))))
                                else none
                        | _ => none
                      else if 0xDC00 ≤ n ∧ n < 0xE000 then none
                      else (parseChars rest2).map (push (Char.ofNat n))
              | _ => none
            else
              match simpleEscape e with
              | some ch => (parseChars rest1).map (push ch)
              | none => none
      else if c.toNat < 0x20 then none
      else (parseChars rest).map (push c)

/-- The digits at the front, and what follows them. -/
def spanDigits (cs : List Char) : List Char × List Char :=
  (cs.takeWhile Char.isDigit, cs.dropWhile Char.isDigit)

/-- `.` and digits, if they are there. -/
def spanFraction : List Char → List Char × List Char
  | '.' :: rest =>
      match spanDigits rest with
      | ([], _) => ([], '.' :: rest)
      | (ds, rest') => ('.' :: ds, rest')
  | cs => ([], cs)

/-- `e`, a sign and digits, if they are there. -/
def spanExponent : List Char → List Char × List Char
  | c :: rest =>
      if c = 'e' ∨ c = 'E' then
        let (sign, body) := match rest with
          | s :: rest' => if s = '+' ∨ s = '-' then ([s], rest') else ([], rest)
          | [] => ([], [])
        match spanDigits body with
        | ([], _) => ([], c :: rest)
        | (ds, rest') => (c :: (sign ++ ds), rest')
      else ([], c :: rest)
  | [] => ([], [])

/-- The digits of an integer part: `0` alone, or digits that do not start with
`0`. -/
def spanInt : List Char → List Char × List Char
  | '0' :: rest => (['0'], rest)
  | cs => spanDigits cs

/-- A number without its sign. -/
def parseUnsigned (negative : Bool) (cs : List Char) : Option (Json × List Char) :=
  match spanInt cs with
  | ([], _) => none
  | (ds, rest) =>
      let n : Int := Nat.ofDigitChars 10 ds 0
      let (fraction, rest1) := spanFraction rest
      let (exponent, rest2) := spanExponent rest1
      if fraction = [] ∧ exponent = [] then some (int (if negative then -n else n), rest)
      else some (float (String.ofList
        ((if negative then ['-'] else []) ++ ds ++ fraction ++ exponent)), rest2)

def parseNumber : List Char → Option (Json × List Char)
  | '-' :: rest => parseUnsigned true rest
  | cs => parseUnsigned false cs

/-- A word or a number: the values that are not strings, arrays or objects. -/
def parseScalar : List Char → Option (Json × List Char)
  | 'n' :: 'u' :: 'l' :: 'l' :: rest => some (null, rest)
  | 't' :: 'r' :: 'u' :: 'e' :: rest => some (bool true, rest)
  | 'f' :: 'a' :: 'l' :: 's' :: 'e' :: rest => some (bool false, rest)
  | 'N' :: 'a' :: 'N' :: rest => some (float "NaN", rest)
  | 'I' :: 'n' :: 'f' :: 'i' :: 'n' :: 'i' :: 't' :: 'y' :: rest => some (float "Infinity", rest)
  | '-' :: 'I' :: 'n' :: 'f' :: 'i' :: 'n' :: 'i' :: 't' :: 'y' :: rest =>
      some (float "-Infinity", rest)
  | cs => parseNumber cs

mutual

/-- One value at the front of the text. -/
def parseValue : (fuel : Nat) → List Char → Option (Json × List Char)
  | 0, _ => none
  | fuel + 1, cs =>
      match skipWs cs with
      | '"' :: rest => (parseChars rest).map fun r => (str (String.ofList r.1), r.2)
      | '[' :: rest =>
          match skipWs rest with
          | ']' :: rest' => some (arr [], rest')
          | _ =>
              match parseValue fuel rest with
              | none => none
              | some (v, rest') => (parseMore fuel rest').map fun r => (arr (v :: r.1), r.2)
      | '{' :: rest =>
          match skipWs rest with
          | '}' :: rest' => some (obj [], rest')
          | _ =>
              match parseEntry fuel rest with
              | none => none
              | some (e, rest') => (parseEntries fuel rest').map fun r => (obj (e :: r.1), r.2)
      | cs' => parseScalar cs'

/-- The rest of an array after one item. -/
def parseMore : (fuel : Nat) → List Char → Option (List Json × List Char)
  | 0, _ => none
  | fuel + 1, cs =>
      match skipWs cs with
      | ']' :: rest => some ([], rest)
      | ',' :: rest =>
          match parseValue fuel rest with
          | none => none
          | some (v, rest') => (parseMore fuel rest').map fun r => (v :: r.1, r.2)
      | _ => none

/-- One `"key": value` of an object. -/
def parseEntry : (fuel : Nat) → List Char → Option ((String × Json) × List Char)
  | 0, _ => none
  | fuel + 1, cs =>
      match skipWs cs with
      | '"' :: rest =>
          match parseChars rest with
          | none => none
          | some (key, rest') =>
              match skipWs rest' with
              | ':' :: rest'' =>
                  (parseValue fuel rest'').map fun r => ((String.ofList key, r.1), r.2)
              | _ => none
      | _ => none

/-- The rest of an object after one entry. -/
def parseEntries : (fuel : Nat) → List Char → Option (List (String × Json) × List Char)
  | 0, _ => none
  | fuel + 1, cs =>
      match skipWs cs with
      | '}' :: rest => some ([], rest)
      | ',' :: rest =>
          match parseEntry fuel rest with
          | none => none
          | some (e, rest') => (parseEntries fuel rest').map fun r => (e :: r.1, r.2)
      | _ => none

end

/-- Read a whole text as one value. Every value takes at least one character, so
the length of the text is fuel enough. -/
def loads (s : String) : Option Json :=
  match parseValue (s.toList.length + 1) s.toList with
  | some (v, rest) => if skipWs rest = [] then some v else none
  | none => none

/-! ### Round trip of strings -/

theorem hexValue_hexChar {n : Nat} (h : n < 16) : hexValue (hexChar n) = some n := by
  have table : ∀ m < 16, hexValue (hexChar m) = some m := by decide
  exact table n h

theorem hexValue4_hex4 {n : Nat} (h : n < 0x10000) :
    hexValue4 (hexChar (n / 4096)) (hexChar (n / 256 % 16)) (hexChar (n / 16 % 16))
      (hexChar (n % 16)) = some n := by
  rw [hexValue4, hexValue_hexChar (by omega), hexValue_hexChar (by omega),
    hexValue_hexChar (by omega), hexValue_hexChar (by omega)]
  show some _ = some n
  congr 1
  omega

/-- An escape of a basic-plane character that is no surrogate. -/
theorem parseChars_hex4 {n : Nat} (h : n < 0x10000) (hs : n < 0xD800 ∨ 0xE000 ≤ n)
    (rest : List Char) :
    parseChars ('\\' :: 'u' :: (hex4 n ++ rest))
      = (parseChars rest).map (push (Char.ofNat n)) := by
  have h1 : ¬ (0xD800 ≤ n ∧ n < 0xDC00) := by omega
  have h2 : ¬ (0xDC00 ≤ n ∧ n < 0xE000) := by omega
  rw [hex4, parseChars.eq_def]
  simp [hexValue4_hex4 h, h1, h2]

/-- An escape of a character outside the basic plane, as a surrogate pair. -/
theorem parseChars_pair {n m : Nat} (hn : 0xD800 ≤ n ∧ n < 0xDC00) (hm : 0xDC00 ≤ m ∧ m < 0xE000)
    (rest : List Char) :
    parseChars ('\\' :: 'u' :: (hex4 n ++ '\\' :: 'u' :: (hex4 m ++ rest)))
      = (parseChars rest).map (push (Char.ofNat
          (0x10000 + (n - 0xD800) * 0x400 + (m - 0xDC00)))) := by
  have hn' : n < 0x10000 := by omega
  have hm' : m < 0x10000 := by omega
  rw [hex4, hex4, parseChars.eq_def]
  simp [hexValue4_hex4 hn', hexValue4_hex4 hm', hn, hm]

/-- A character is read back from its escape. -/
theorem parseChars_escapeChar (c : Char) (rest : List Char) :
    parseChars (escapeChar c ++ rest) = (parseChars rest).map (push c) := by
  have hvalid : c.toNat < 0xD800 ∨ 0xDFFF < c.toNat ∧ c.toNat < 0x110000 := c.valid
  have hnat : Char.ofNat c.toNat = c := Char.ofNat_toNat c
  unfold escapeChar
  split_ifs with hquote hback hnl hcr htab hbs hff hplain hbasic
  · subst hquote; rw [List.cons_append, List.cons_append, parseChars.eq_def]; rfl
  · subst hback; rw [List.cons_append, List.cons_append, parseChars.eq_def]; rfl
  · subst hnl; rw [List.cons_append, List.cons_append, parseChars.eq_def]; rfl
  · subst hcr; rw [List.cons_append, List.cons_append, parseChars.eq_def]; rfl
  · subst htab; rw [List.cons_append, List.cons_append, parseChars.eq_def]; rfl
  · subst hbs; rw [List.cons_append, List.cons_append, parseChars.eq_def]; rfl
  · subst hff; rw [List.cons_append, List.cons_append, parseChars.eq_def]; rfl
  · have hge : ¬ c.toNat < 0x20 := by omega
    rw [List.cons_append, List.nil_append, parseChars.eq_def]
    simp [hquote, hback, hge]
  · have hsur : c.toNat < 0xD800 ∨ 0xE000 ≤ c.toNat := by omega
    rw [List.cons_append, List.cons_append, parseChars_hex4 hbasic hsur, hnat]
  · have hval : 0x10000 + (0xD800 + (c.toNat - 0x10000) / 0x400 - 0xD800) * 0x400
        + (0xDC00 + (c.toNat - 0x10000) % 0x400 - 0xDC00) = c.toNat := by omega
    simp only [List.cons_append, List.append_assoc]
    rw [parseChars_pair (by omega) (by omega), hval, hnat]

/-- A string literal is read back. -/
theorem parseChars_renderStr (s : String) (rest : List Char) :
    parseChars (s.toList.flatMap escapeChar ++ '"' :: rest) = some (s.toList, rest) := by
  induction s.toList with
  | nil => rw [List.flatMap_nil, List.nil_append, parseChars.eq_def]; rfl
  | cons c cs ih =>
      rw [List.flatMap_cons, List.append_assoc, parseChars_escapeChar, ih]
      rfl

/-! ### Round trip of numbers -/

/-- Text that ends a number literal. -/
def Stops (rest : List Char) : Prop :=
  ∀ c, rest.head? = some c → c.isDigit = false ∧ c ≠ '.' ∧ c ≠ 'e' ∧ c ≠ 'E'

theorem stops_nil : Stops [] := by
  intro c h
  cases h

theorem stops_cons {c : Char} (rest : List Char)
    (h : c.isDigit = false ∧ c ≠ '.' ∧ c ≠ 'e' ∧ c ≠ 'E') : Stops (c :: rest) := by
  intro d hd
  obtain rfl : c = d := by simpa using hd
  exact h

theorem spanDigits_append {ds rest : List Char} (hds : ∀ c ∈ ds, c.isDigit) (h : Stops rest) :
    spanDigits (ds ++ rest) = (ds, rest) := by
  have hrest : rest.takeWhile Char.isDigit = [] ∧ rest.dropWhile Char.isDigit = rest := by
    cases rest with
    | nil => exact ⟨rfl, rfl⟩
    | cons c cs =>
        have hc := (h c rfl).1
        simp [hc]
  rw [spanDigits, List.takeWhile_append_of_pos hds,
    List.dropWhile_append_of_pos hds, hrest.1, hrest.2, List.append_nil]

/-- Only zero is written with a leading `0`. -/
theorem head_toDigits {n : Nat} (hn : 0 < n) : (Nat.toDigits 10 n).head? ≠ some '0' := by
  induction n using Nat.strongRecOn with
  | ind n ih =>
      by_cases hlt : n < 10
      · rw [Nat.toDigits_of_lt_base hlt]
        have table : ∀ m < 10, 0 < m → [Nat.digitChar m].head? ≠ some '0' := by decide
        exact table n hlt hn
      · have hrec := ih (n / 10) (by omega) (by omega)
        rw [Nat.toDigits_of_base_le (by decide) (by omega)]
        cases hd : Nat.toDigits 10 (n / 10) with
        | nil => exact absurd hd Nat.toDigits_ne_nil
        | cons c cs =>
            rw [hd] at hrec
            simpa using hrec

theorem spanInt_toDigits (n : Nat) {rest : List Char} (h : Stops rest) :
    spanInt (Nat.toDigits 10 n ++ rest) = (Nat.toDigits 10 n, rest) := by
  have hdigits : ∀ c ∈ Nat.toDigits 10 n, c.isDigit := fun c hc =>
    Nat.isDigit_of_mem_toDigits (by decide) (by decide) hc
  rcases Nat.eq_zero_or_pos n with rfl | hn
  · rfl
  · have hhead := head_toDigits hn
    cases hd : Nat.toDigits 10 n with
    | nil => exact absurd hd Nat.toDigits_ne_nil
    | cons c cs =>
        have hc : c ≠ '0' := by
          rw [hd] at hhead
          simpa using hhead
        rw [← hd, ← spanDigits_append hdigits h, hd, List.cons_append, spanInt]
        intro rest' hrest'
        exact hc (List.cons.inj hrest').1

theorem spanFraction_stops {rest : List Char} (h : Stops rest) : spanFraction rest = ([], rest) := by
  cases rest with
  | nil => rfl
  | cons c cs =>
      have hdot := (h c rfl).2.1
      rw [spanFraction]
      intro rest' hrest'
      exact hdot (List.cons.inj hrest').1

theorem spanExponent_stops {rest : List Char} (h : Stops rest) :
    spanExponent rest = ([], rest) := by
  cases rest with
  | nil => rfl
  | cons c cs =>
      obtain ⟨-, -, he, hE⟩ := h c rfl
      rw [spanExponent.eq_def]
      simp [he, hE]

theorem parseUnsigned_toDigits (negative : Bool) (n : Nat) {rest : List Char} (h : Stops rest) :
    parseUnsigned negative (Nat.toDigits 10 n ++ rest)
      = some (int (if negative then -(n : Int) else n), rest) := by
  rw [parseUnsigned, spanInt_toDigits n h]
  cases hd : Nat.toDigits 10 n with
  | nil => exact absurd hd Nat.toDigits_ne_nil
  | cons c cs =>
      have hval : Nat.ofDigitChars 10 (c :: cs) 0 = n := by
        rw [← hd, Nat.ofDigitChars_ten_toDigits]
      simp only [spanFraction_stops h, spanExponent_stops h, hval, and_self, if_true]

/-- A text that starts with a digit is a number. -/
theorem parseScalar_digit {c : Char} (hc : c.isDigit) (cs : List Char) :
    parseScalar (c :: cs) = parseUnsigned false (c :: cs) := by
  have hne : ∀ d : Char, d.isDigit = false → c ≠ d := by
    rintro d hd rfl
    rw [hd] at hc
    cases hc
  have hn := hne 'n' rfl
  have ht := hne 't' rfl
  have hf := hne 'f' rfl
  have hN := hne 'N' rfl
  have hI := hne 'I' rfl
  have hm := hne '-' rfl
  unfold parseScalar
  split <;> simp_all [parseNumber]

/-- An integer literal is read back. -/
theorem parseScalar_renderInt (n : Int) {rest : List Char} (h : Stops rest) :
    parseScalar (renderInt n ++ rest) = some (int n, rest) := by
  cases n with
  | ofNat n =>
      have hrun := parseUnsigned_toDigits false n h
      rw [renderInt]
      cases hd : Nat.toDigits 10 n with
      | nil => exact absurd hd Nat.toDigits_ne_nil
      | cons c cs =>
          have hc : c.isDigit :=
            Nat.isDigit_of_mem_toDigits (b := 10) (n := n) (by decide) (by decide)
              (by rw [hd]; exact List.mem_cons_self)
          rw [hd, List.cons_append] at hrun
          rw [List.cons_append, parseScalar_digit hc, hrun]
          rfl
  | negSucc n =>
      have hrun := parseUnsigned_toDigits true (n + 1) h
      rw [renderInt, List.cons_append]
      cases hd : Nat.toDigits 10 (n + 1) with
      | nil => exact absurd hd Nat.toDigits_ne_nil
      | cons c cs =>
          have hc : c.isDigit :=
            Nat.isDigit_of_mem_toDigits (b := 10) (n := n + 1) (by decide) (by decide)
              (by rw [hd]; exact List.mem_cons_self)
          have hI : c ≠ 'I' := by
            rintro rfl
            cases hc
          rw [hd] at hrun
          have hscalar : parseScalar ('-' :: (c :: cs ++ rest))
              = parseUnsigned true (c :: cs ++ rest) := by
            unfold parseScalar
            split <;> simp_all [parseNumber]
          rw [hscalar, hrun]
          rfl

/-! ### Round trip of values -/

mutual

/-- A value without number literals that are kept as text. -/
def integral : Json → Bool
  | float _ => false
  | arr vs => integralItems vs
  | obj es => integralEntries es
  | _ => true

def integralItems : List Json → Bool
  | [] => true
  | v :: vs => integral v && integralItems vs

def integralEntries : List (String × Json) → Bool
  | [] => true
  | (_, v) :: es => integral v && integralEntries es

end

/-- An integer literal starts with a digit or a minus sign. -/
theorem renderInt_head (n : Int) : ∃ c cs, renderInt n = c :: cs ∧ (c.isDigit ∨ c = '-') := by
  cases n with
  | ofNat n =>
      cases hd : Nat.toDigits 10 n with
      | nil => exact absurd hd Nat.toDigits_ne_nil
      | cons c cs =>
          have hc : c.isDigit :=
            Nat.isDigit_of_mem_toDigits (b := 10) (n := n) (by decide) (by decide)
              (by rw [hd]; exact List.mem_cons_self)
          exact ⟨c, cs, hd, Or.inl hc⟩
  | negSucc n => exact ⟨'-', _, rfl, Or.inr rfl⟩

/-- A first character of a value: neither white space nor a closing bracket. -/
def Opens (c : Char) : Prop := isWs c = false ∧ c ≠ ']' ∧ c ≠ '}'

theorem opens_of_isDigit {c : Char} (hc : c.isDigit) : Opens c := by
  refine ⟨?_, ?_, ?_⟩
  · by_contra h
    simp only [isWs, Bool.not_eq_false, Bool.or_eq_true, decide_eq_true_eq] at h
    rcases h with ((rfl | rfl) | rfl) | rfl <;> cases hc
  · rintro rfl
    cases hc
  · rintro rfl
    cases hc

theorem render_head (v : Json) (hv : integral v) : ∃ c cs, render v = c :: cs ∧ Opens c := by
  cases v with
  | null => exact ⟨_, _, by rw [render], by decide, by decide, by decide⟩
  | bool b => cases b <;> exact ⟨_, _, by rw [render], by decide, by decide, by decide⟩
  | float l => cases hv
  | str s => exact ⟨_, _, by rw [render, renderStr], by decide, by decide, by decide⟩
  | arr vs => cases vs <;> exact ⟨_, _, by rw [render], by decide, by decide, by decide⟩
  | obj es =>
      rcases es with _ | ⟨⟨k, v⟩, es⟩ <;>
        exact ⟨_, _, by rw [render], by decide, by decide, by decide⟩
  | int n =>
      obtain ⟨c, cs, heq, hc⟩ := renderInt_head n
      refine ⟨c, cs, by rw [render, heq], ?_⟩
      rcases hc with hc | rfl
      · exact opens_of_isDigit hc
      · exact ⟨by decide, by decide, by decide⟩

theorem skipWs_cons {c : Char} (h : isWs c = false) (cs : List Char) :
    skipWs (c :: cs) = c :: cs := by
  simp [skipWs, h]

/-- A value that is no string, array or object is a word or a number. -/
theorem parseValue_scalar (fuel : Nat) {c : Char} (cs : List Char) (hws : isWs c = false)
    (hstr : c ≠ '"') (harr : c ≠ '[') (hobj : c ≠ '{') :
    parseValue (fuel + 1) (c :: cs) = parseScalar (c :: cs) := by
  rw [parseValue, skipWs_cons hws]
  split
  · rename_i heq; exact absurd (List.cons.inj heq).1 hstr
  · rename_i heq; exact absurd (List.cons.inj heq).1 harr
  · rename_i heq; exact absurd (List.cons.inj heq).1 hobj
  · rfl

/-- A text whose first character starts no value is refused. -/
theorem loads_eq_none {c : Char} (cs : List Char) (hws : isWs c = false) (hstr : c ≠ '"')
    (harr : c ≠ '[') (hobj : c ≠ '{') (hscalar : parseScalar (c :: cs) = none) :
    loads (String.ofList (c :: cs)) = none := by
  rw [loads, String.toList_ofList, parseValue_scalar _ cs hws hstr harr hobj, hscalar]

theorem parseValue_str (s : String) (rest : List Char) (fuel : Nat) :
    parseValue (fuel + 1) (renderStr s ++ rest) = some (str s, rest) := by
  rw [renderStr, List.cons_append, parseValue, skipWs_cons (by decide)]
  simp only [List.append_assoc, List.singleton_append, parseChars_renderStr, Option.map_some,
    String.ofList_toList]

/-- An array with a first item. -/
theorem parseValue_arr {fuel : Nat} {v : Json} {vs : List Json} {text tail rest : List Char}
    (hopen : ∃ c cs, text = c :: cs ∧ Opens c) (hv : parseValue fuel text = some (v, tail))
    (hvs : parseMore fuel tail = some (vs, rest)) :
    parseValue (fuel + 1) ('[' :: text) = some (arr (v :: vs), rest) := by
  obtain ⟨c, cs, rfl, hws, hsq, -⟩ := hopen
  rw [parseValue, skipWs_cons (by decide)]
  simp only [skipWs_cons hws]
  split
  · rename_i heq; exact absurd (List.cons.inj heq).1 hsq
  · simp only [hv, hvs, Option.map_some]

/-- An object with a first entry. -/
theorem parseValue_obj {fuel : Nat} {e : String × Json} {es : List (String × Json)}
    {text tail rest : List Char} (hopen : ∃ c cs, text = c :: cs ∧ Opens c)
    (he : parseEntry fuel text = some (e, tail)) (hes : parseEntries fuel tail = some (es, rest)) :
    parseValue (fuel + 1) ('{' :: text) = some (obj (e :: es), rest) := by
  obtain ⟨c, cs, rfl, hws, -, hbr⟩ := hopen
  rw [parseValue, skipWs_cons (by decide)]
  simp only [skipWs_cons hws]
  split
  · rename_i heq; exact absurd (List.cons.inj heq).1 hbr
  · simp only [he, hes, Option.map_some]

theorem parseEntry_render {fuel : Nat} {k : String} {v : Json} {text rest : List Char}
    (hv : parseValue fuel text = some (v, rest)) :
    parseEntry (fuel + 1) (renderStr k ++ ':' :: text) = some ((k, v), rest) := by
  rw [renderStr, List.cons_append, parseEntry, skipWs_cons (by decide)]
  simp only [List.append_assoc, List.singleton_append, parseChars_renderStr]
  rw [skipWs_cons (by decide)]
  simp only [hv, Option.map_some, String.ofList_toList]

theorem renderMore_stops (vs : List Json) (rest : List Char) : Stops (renderMore vs ++ rest) := by
  cases vs <;> rw [renderMore] <;> exact stops_cons _ (by decide)

theorem renderEntries_stops (es : List (String × Json)) (rest : List Char) :
    Stops (renderEntries es ++ rest) := by
  rcases es with _ | ⟨⟨k, v⟩, es⟩ <;> rw [renderEntries] <;> exact stops_cons _ (by decide)

theorem render_append_head {v : Json} (hv : integral v) (rest : List Char) :
    ∃ c cs, render v ++ rest = c :: cs ∧ Opens c := by
  obtain ⟨c, cs, heq, hopen⟩ := render_head v hv
  exact ⟨c, cs ++ rest, by rw [heq]; rfl, hopen⟩

mutual

/-- A value is read back from its text. -/
theorem parseValue_render : ∀ (v : Json) (fuel : Nat) (rest : List Char), integral v →
    (render v).length ≤ fuel → Stops rest →
    parseValue fuel (render v ++ rest) = some (v, rest)
  | v, 0, rest, hv, hlen, _ => by
      obtain ⟨c, cs, heq, -⟩ := render_head v hv
      rw [heq] at hlen
      simp at hlen
  | null, fuel + 1, rest, _, _, _ => by
      rw [render, parseValue]
      rfl
  | bool true, fuel + 1, rest, _, _, _ => by
      rw [render, parseValue]
      rfl
  | bool false, fuel + 1, rest, _, _, _ => by
      rw [render, parseValue]
      rfl
  | float l, fuel + 1, rest, hv, _, _ => by cases hv
  | int n, fuel + 1, rest, hv, _, hrest => by
      have hscalar := parseScalar_renderInt n hrest
      obtain ⟨c, cs, heq, hc⟩ := renderInt_head n
      rw [heq, List.cons_append] at hscalar
      rw [render, heq, List.cons_append]
      rcases hc with hc | rfl
      · rw [parseValue_scalar fuel _ (opens_of_isDigit hc).1 (by rintro rfl; cases hc) (by rintro rfl; cases hc)
          (by rintro rfl; cases hc), hscalar]
      · rw [parseValue_scalar fuel _ (by decide) (by decide) (by decide) (by decide), hscalar]
  | str s, fuel + 1, rest, _, _, _ => by
      rw [render]
      exact parseValue_str s rest fuel
  | arr [], fuel + 1, rest, _, _, _ => by
      rw [render, parseValue]
      rfl
  | arr (v :: vs), fuel + 1, rest, hv, hlen, _ => by
      simp only [integral, integralItems, Bool.and_eq_true] at hv
      simp only [render, List.length_cons, List.length_append] at hlen
      rw [render, List.cons_append, List.append_assoc]
      exact parseValue_arr (render_append_head hv.1 _)
        (parseValue_render v fuel _ hv.1 (by omega) (renderMore_stops vs rest))
        (parseMore_render vs fuel rest hv.2 (by omega))
  | obj [], fuel + 1, rest, _, _, _ => by
      rw [render, parseValue]
      rfl
  | obj ((k, v) :: es), fuel + 1, rest, hv, hlen, _ => by
      simp only [integral, integralEntries, Bool.and_eq_true] at hv
      simp only [render, List.length_cons, List.length_append] at hlen
      rw [render, List.cons_append, List.append_assoc, List.cons_append, List.append_assoc]
      obtain ⟨fuel, rfl⟩ : ∃ m, fuel = m + 1 := ⟨fuel - 1, by omega⟩
      refine parseValue_obj ⟨'"', _, rfl, by decide, by decide, by decide⟩ (parseEntry_render
        (parseValue_render v fuel _ hv.1 (by omega) (renderEntries_stops es rest)))
        (parseEntries_render es (fuel + 1) rest hv.2 (by omega))

theorem parseMore_render : ∀ (vs : List Json) (fuel : Nat) (rest : List Char),
    integralItems vs → (renderMore vs).length ≤ fuel →
    parseMore fuel (renderMore vs ++ rest) = some (vs, rest)
  | [], 0, rest, _, hlen => by simp [renderMore] at hlen
  | [], fuel + 1, rest, _, _ => by
      rw [renderMore, parseMore]
      rfl
  | v :: vs, 0, rest, _, hlen => by simp [renderMore] at hlen
  | v :: vs, fuel + 1, rest, hv, hlen => by
      simp only [integralItems, Bool.and_eq_true] at hv
      simp only [renderMore, List.length_cons, List.length_append] at hlen
      rw [renderMore, List.cons_append, List.append_assoc, parseMore, skipWs_cons (by decide)]
      simp only [parseValue_render v fuel _ hv.1 (by omega) (renderMore_stops vs rest),
        parseMore_render vs fuel rest hv.2 (by omega), Option.map_some]

theorem parseEntries_render : ∀ (es : List (String × Json)) (fuel : Nat) (rest : List Char),
    integralEntries es → (renderEntries es).length ≤ fuel →
    parseEntries fuel (renderEntries es ++ rest) = some (es, rest)
  | [], 0, rest, _, hlen => by simp [renderEntries] at hlen
  | [], fuel + 1, rest, _, _ => by
      rw [renderEntries, parseEntries]
      rfl
  | (k, v) :: es, 0, rest, _, hlen => by simp [renderEntries] at hlen
  | (k, v) :: es, fuel + 1, rest, hv, hlen => by
      simp only [integralEntries, Bool.and_eq_true] at hv
      simp only [renderEntries, List.length_cons, List.length_append] at hlen
      rw [renderEntries, List.cons_append, List.append_assoc, List.cons_append, List.append_assoc,
        parseEntries, skipWs_cons (by decide)]
      obtain ⟨fuel, rfl⟩ : ∃ m, fuel = m + 1 := ⟨fuel - 1, by omega⟩
      simp only [parseEntry_render (k := k)
          (parseValue_render v fuel _ hv.1 (by omega) (renderEntries_stops es rest)),
        parseEntries_render es (fuel + 1) rest hv.2 (by omega), Option.map_some]

end

/-- **Round trip.** A value without literals kept as text is read back from its
compact text. -/
theorem loads_dumps (v : Json) (hv : integral v) : loads (dumps v) = some v := by
  have hparse := parseValue_render v ((render v).length + 1) [] hv (Nat.le_succ _) stops_nil
  rw [List.append_nil] at hparse
  rw [loads, dumps, String.toList_ofList, hparse]
  rfl

end Json
end Lib
