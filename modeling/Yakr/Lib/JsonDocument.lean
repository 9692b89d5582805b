import Yakr.Lib.Json

/-!
# Yakr.Lib.JsonDocument

**A JSON text with the marks that reading it as a value loses.** A typed decoder sees more
of a text than its value: the entries of an object in text order, doubles included, and
whether a number literal carries a minus sign (`-0` is the integer zero as a value).
`readDocument` keeps both for the top level; forgetting them gives what `loads` reads.
-/

namespace Lib
namespace Json

/-- A value, and whether its text starts with a minus sign. -/
structure Marked where
  value : Json
  negative : Bool

/-- The top level of a text. -/
inductive Document where
  | object (entries : List (String × Marked))
  | array (items : List Marked)
  | scalar (value : Json)

def eraseEntry (e : String × Marked) : String × Json := (e.1, e.2.value)

/-- The value of a text. -/
def Document.value : Document → Json
  | object entries => .obj (entries.map eraseEntry)
  | array items => .arr (items.map Marked.value)
  | scalar v => v

/-- The text starts with a minus sign. -/
def startsNegative (cs : List Char) : Bool := (skipWs cs).head? = some '-'

/-- One value, with its mark. -/
def parseMarked (fuel : Nat) (cs : List Char) : Option (Marked × List Char) :=
  (parseValue fuel cs).map fun r => (⟨r.1, startsNegative cs⟩, r.2)

/-- The rest of an array after one item. -/
def parseMarkedMore : (fuel : Nat) → List Char → Option (List Marked × List Char)
  | 0, _ => none
  | fuel + 1, cs =>
      match skipWs cs with
      | ']' :: rest => some ([], rest)
      | ',' :: rest =>
          match parseMarked fuel rest with
          | none => none
          | some (v, rest') => (parseMarkedMore fuel rest').map fun r => (v :: r.1, r.2)
      | _ => none

/-- One `"key": value` of an object. -/
def parseMarkedEntry : (fuel : Nat) → List Char → Option ((String × Marked) × List Char)
  | 0, _ => none
  | fuel + 1, cs =>
      match skipWs cs with
      | '"' :: rest =>
          match parseChars rest with
          | none => none
          | some (key, rest') =>
              match skipWs rest' with
              | ':' :: rest'' =>
                  (parseMarked fuel rest'').map fun r => ((String.ofList key, r.1), r.2)
              | _ => none
      | _ => none

/-- The rest of an object after one entry. -/
def parseMarkedEntries : (fuel : Nat) → List Char →
    Option (List (String × Marked) × List Char)
  | 0, _ => none
  | fuel + 1, cs =>
      match skipWs cs with
      | '}' :: rest => some ([], rest)
      | ',' :: rest =>
          match parseMarkedEntry fuel rest with
          | none => none
          | some (e, rest') => (parseMarkedEntries fuel rest').map fun r => (e :: r.1, r.2)
      | _ => none

/-- The document at the front of the text. -/
def parseDocument : (fuel : Nat) → List Char → Option (Document × List Char)
  | 0, _ => none
  | fuel + 1, cs =>
      match skipWs cs with
      | '"' :: rest => (parseChars rest).map fun r => (.scalar (str (String.ofList r.1)), r.2)
      | '[' :: rest =>
          match skipWs rest with
          | ']' :: rest' => some (.array [], rest')
          | _ =>
              match parseMarked fuel rest with
              | none => none
              | some (v, rest') =>
                  (parseMarkedMore fuel rest').map fun r => (.array (v :: r.1), r.2)
      | '{' :: rest =>
          match skipWs rest with
          | '}' :: rest' => some (.object [], rest')
          | _ =>
              match parseMarkedEntry fuel rest with
              | none => none
              | some (e, rest') =>
                  (parseMarkedEntries fuel rest').map fun r => (.object (e :: r.1), r.2)
      | cs' => (parseScalar cs').map fun r => (.scalar r.1, r.2)

/-- Read a whole text as one document. -/
def readDocument (s : String) : Option Document :=
  match parseDocument (s.toList.length + 1) s.toList with
  | some (d, rest) => if skipWs rest = [] then some d else none
  | none => none

/-! ### Forgetting the marks -/

theorem parseMarked_erase (fuel : Nat) (cs : List Char) :
    (parseMarked fuel cs).map (fun r => (r.1.value, r.2)) = parseValue fuel cs := by
  rw [parseMarked]
  cases parseValue fuel cs <;> rfl

theorem parseMarkedMore_erase : ∀ (fuel : Nat) (cs : List Char),
    (parseMarkedMore fuel cs).map (fun r => (r.1.map Marked.value, r.2)) = parseMore fuel cs
  | 0, _ => rfl
  | fuel + 1, cs => by
      rw [parseMarkedMore, parseMore]
      cases skipWs cs with
      | nil => rfl
      | cons c rest =>
          by_cases hclose : c = ']'
          · subst hclose
            rfl
          · by_cases hcomma : c = ','
            · subst hcomma
              have hitem := parseMarked_erase fuel rest
              cases hmarked : parseMarked fuel rest with
              | none =>
                  rw [hmarked] at hitem
                  simp [hmarked, ← hitem]
              | some r =>
                  rw [hmarked] at hitem
                  simp only [hmarked, ← hitem, Option.map_some, Option.map_map,
                    ← parseMarkedMore_erase fuel r.2]
                  rfl
            · simp [hclose, hcomma]

theorem parseMarkedEntry_erase : ∀ (fuel : Nat) (cs : List Char),
    (parseMarkedEntry fuel cs).map (fun r => (eraseEntry r.1, r.2)) = parseEntry fuel cs
  | 0, _ => rfl
  | fuel + 1, cs => by
      rw [parseMarkedEntry, parseEntry]
      cases skipWs cs with
      | nil => rfl
      | cons c rest =>
          by_cases hquote : c = '"'
          · subst hquote
            cases hkey : parseChars rest with
            | none => simp [hkey]
            | some r =>
                simp only [hkey]
                cases skipWs r.2 with
                | nil => rfl
                | cons c' rest' =>
                    by_cases hcolon : c' = ':'
                    · subst hcolon
                      simp only [← parseMarked_erase, Option.map_map]
                      rfl
                    · simp [hcolon]
          · simp [hquote]

theorem parseMarkedEntries_erase : ∀ (fuel : Nat) (cs : List Char),
    (parseMarkedEntries fuel cs).map (fun r => (r.1.map eraseEntry, r.2)) = parseEntries fuel cs
  | 0, _ => rfl
  | fuel + 1, cs => by
      rw [parseMarkedEntries, parseEntries]
      cases skipWs cs with
      | nil => rfl
      | cons c rest =>
          by_cases hclose : c = '}'
          · subst hclose
            rfl
          · by_cases hcomma : c = ','
            · subst hcomma
              simp only [← parseMarkedEntry_erase]
              cases parseMarkedEntry fuel rest with
              | none => rfl
              | some r =>
                  simp only [Option.map_some, Option.map_map, ← parseMarkedEntries_erase fuel r.2]
                  rfl
            · simp [hclose, hcomma]

/-- The items of an array, after its bracket. -/
theorem parseItems_erase (fuel : Nat) (rest : List Char) :
    (match parseMarked fuel rest with
      | none => none
      | some (v, rest') =>
          (parseMarkedMore fuel rest').map fun (r : List Marked × List Char) =>
            (Document.array (v :: r.1), r.2)).map
        (fun (r : Document × List Char) => (r.1.value, r.2)) =
      match parseValue fuel rest with
      | none => none
      | some (v, rest') =>
          (parseMore fuel rest').map fun (r : List Json × List Char) => (arr (v :: r.1), r.2) := by
  rw [← parseMarked_erase]
  cases parseMarked fuel rest with
  | none => rfl
  | some r =>
      simp only [Option.map_some, Option.map_map, ← parseMarkedMore_erase fuel r.2]
      rfl

/-- The entries of an object, after its brace. -/
theorem parseMembers_erase (fuel : Nat) (rest : List Char) :
    (match parseMarkedEntry fuel rest with
      | none => none
      | some (e, rest') =>
          (parseMarkedEntries fuel rest').map fun (r : List (String × Marked) × List Char) =>
            (Document.object (e :: r.1), r.2)).map
        (fun (r : Document × List Char) => (r.1.value, r.2)) =
      match parseEntry fuel rest with
      | none => none
      | some (e, rest') =>
          (parseEntries fuel rest').map fun (r : List (String × Json) × List Char) =>
            (obj (e :: r.1), r.2) := by
  rw [← parseMarkedEntry_erase]
  cases parseMarkedEntry fuel rest with
  | none => rfl
  | some r =>
      simp only [Option.map_some, Option.map_map, ← parseMarkedEntries_erase fuel r.2]
      rfl

theorem parseDocument_erase : ∀ (fuel : Nat) (cs : List Char),
    (parseDocument fuel cs).map (fun r => (r.1.value, r.2)) = parseValue fuel cs
  | 0, _ => rfl
  | fuel + 1, cs => by
      rw [parseDocument, parseValue]
      cases skipWs cs with
      | nil => rfl
      | cons c rest =>
          by_cases hquote : c = '"'
          · subst hquote
            simp only [Option.map_map]
            rfl
          · by_cases hsquare : c = '['
            · subst hsquare
              cases hitems : skipWs rest with
              | nil =>
                  simp only [hitems]
                  exact parseItems_erase fuel rest
              | cons c' rest' =>
                  by_cases hclose : c' = ']'
                  · subst hclose
                    simp [hitems, Document.value]
                  · simp [hitems, hclose]
                    exact parseItems_erase fuel rest
            · by_cases hbrace : c = '{'
              · subst hbrace
                cases hmembers : skipWs rest with
                | nil =>
                    simp only [hmembers]
                    exact parseMembers_erase fuel rest
                | cons c' rest' =>
                    by_cases hclose : c' = '}'
                    · subst hclose
                      simp [hmembers, Document.value]
                    · simp [hmembers, hclose]
                      exact parseMembers_erase fuel rest
              · simp [hquote, hsquare, hbrace]
                cases parseScalar (c :: rest) <;> rfl

/-- A document is read from a text exactly when its value is. -/
theorem loads_eq_value (s : String) : loads s = (readDocument s).map Document.value := by
  rw [loads, readDocument, ← parseDocument_erase]
  cases parseDocument (s.toList.length + 1) s.toList with
  | none => rfl
  | some r =>
      simp only [Option.map_some]
      split <;> rfl

/-! ### Scalars -/

theorem parseUnsigned_ne_obj {negative : Bool} {cs : List Char} {r : Json × List Char}
    (h : parseUnsigned negative cs = some r) (es : List (String × Json)) : r.1 ≠ obj es := by
  unfold parseUnsigned at h
  split at h
  · cases h
  · dsimp only at h
    split at h
    · cases h
      nofun
    · cases h
      nofun

theorem parseScalar_ne_obj {cs : List Char} {r : Json × List Char} (h : parseScalar cs = some r)
    (es : List (String × Json)) : r.1 ≠ obj es := by
  unfold parseScalar at h
  split at h
  · cases h
    nofun
  · cases h
    nofun
  · cases h
    nofun
  · cases h
    nofun
  · cases h
    nofun
  · cases h
    nofun
  · unfold parseNumber at h
    split at h
    · exact parseUnsigned_ne_obj h es
    · exact parseUnsigned_ne_obj h es

/-- A scalar document is no object. -/
theorem parseDocument_scalar {fuel : Nat} {cs rest : List Char} {v : Json}
    (h : parseDocument fuel cs = some (.scalar v, rest)) (es : List (String × Json)) :
    v ≠ obj es := by
  cases fuel with
  | zero => cases h
  | succ fuel =>
      rw [parseDocument] at h
      split at h
      · obtain ⟨r, -, heq⟩ := Option.map_eq_some_iff.mp h
        cases heq
        exact Json.noConfusion
      · split at h
        · cases h
        · split at h
          · cases h
          · obtain ⟨r, -, heq⟩ := Option.map_eq_some_iff.mp h
            cases heq
      · split at h
        · cases h
        · split at h
          · cases h
          · obtain ⟨r, -, heq⟩ := Option.map_eq_some_iff.mp h
            cases heq
      · obtain ⟨r, hr, heq⟩ := Option.map_eq_some_iff.mp h
        cases heq
        exact parseScalar_ne_obj hr es

theorem readDocument_scalar {s : String} {v : Json} (h : readDocument s = some (.scalar v))
    (es : List (String × Json)) : v ≠ obj es := by
  unfold readDocument at h
  split at h
  · rename_i d rest hparse
    split_ifs at h
    cases h
    exact parseDocument_scalar hparse es
  · cases h

end Json
end Lib
