import Yakr.Lib.Json

/-!
# Yakr.Lib.JsonSpaced

**JSON text with the default separators.** The writer that puts a blank after every `,` and `:`.
The reader passes over the blanks, so `loads_dumpsSpaced` is the round trip of the compact writer
again.
-/

namespace Lib
namespace Json

/-! ### Writing -/

mutual

/-- The text of a value, with a blank after each separator. -/
def renderSpaced : Json → List Char
  | null => ['n', 'u', 'l', 'l']
  | bool true => ['t', 'r', 'u', 'e']
  | bool false => ['f', 'a', 'l', 's', 'e']
  | int n => renderInt n
  | float literal => literal.toList
  | str s => renderStr s
  | arr [] => ['[', ']']
  | arr (v :: vs) => '[' :: (renderSpaced v ++ renderSpacedMore vs)
  | obj [] => ['{', '}']
  | obj ((k, v) :: es) => '{' :: (renderStr k ++ ':' :: ' ' :: (renderSpaced v ++ renderSpacedEntries es))

/-- The rest of an array after one item. -/
def renderSpacedMore : List Json → List Char
  | [] => [']']
  | v :: vs => ',' :: ' ' :: (renderSpaced v ++ renderSpacedMore vs)

/-- The rest of an object after one entry. -/
def renderSpacedEntries : List (String × Json) → List Char
  | [] => ['}']
  | (k, v) :: es =>
      ',' :: ' ' :: (renderStr k ++ ':' :: ' ' :: (renderSpaced v ++ renderSpacedEntries es))

end

/-- The text of a value with the default separators, as a string. -/
def dumpsSpaced (v : Json) : String := String.ofList (renderSpaced v)

/-! ### Reading past a blank -/

theorem parseValue_blank (fuel : Nat) (cs : List Char) :
    parseValue fuel (' ' :: cs) = parseValue fuel cs := by
  cases fuel with
  | zero => rfl
  | succ fuel => rfl

theorem parseEntry_blank (fuel : Nat) (cs : List Char) :
    parseEntry fuel (' ' :: cs) = parseEntry fuel cs := by
  cases fuel with
  | zero => rfl
  | succ fuel => rfl

/-! ### Round trip -/

theorem renderSpaced_head (v : Json) (hv : integral v) :
    ∃ c cs, renderSpaced v = c :: cs ∧ Opens c := by
  cases v with
  | null => exact ⟨_, _, by rw [renderSpaced], by decide, by decide, by decide⟩
  | bool b => cases b <;> exact ⟨_, _, by rw [renderSpaced], by decide, by decide, by decide⟩
  | float l => cases hv
  | str s => exact ⟨_, _, by rw [renderSpaced, renderStr], by decide, by decide, by decide⟩
  | arr vs => cases vs <;> exact ⟨_, _, by rw [renderSpaced], by decide, by decide, by decide⟩
  | obj es =>
      rcases es with _ | ⟨⟨k, v⟩, es⟩ <;>
        exact ⟨_, _, by rw [renderSpaced], by decide, by decide, by decide⟩
  | int n =>
      obtain ⟨c, cs, heq, hopen⟩ := render_head (.int n) hv
      rw [render] at heq
      exact ⟨c, cs, by rw [renderSpaced, heq], hopen⟩

theorem renderSpaced_append_head {v : Json} (hv : integral v) (rest : List Char) :
    ∃ c cs, renderSpaced v ++ rest = c :: cs ∧ Opens c := by
  obtain ⟨c, cs, heq, hopen⟩ := renderSpaced_head v hv
  exact ⟨c, cs ++ rest, by rw [heq]; rfl, hopen⟩

theorem renderSpacedMore_stops (vs : List Json) (rest : List Char) :
    Stops (renderSpacedMore vs ++ rest) := by
  cases vs <;> rw [renderSpacedMore] <;> exact stops_cons _ (by decide)

theorem renderSpacedEntries_stops (es : List (String × Json)) (rest : List Char) :
    Stops (renderSpacedEntries es ++ rest) := by
  rcases es with _ | ⟨⟨k, v⟩, es⟩ <;> rw [renderSpacedEntries] <;> exact stops_cons _ (by decide)

/-- An entry whose value comes after a blank. -/
theorem parseEntry_spaced {fuel : Nat} {k : String} {v : Json} {text rest : List Char}
    (hv : parseValue fuel text = some (v, rest)) :
    parseEntry (fuel + 1) (renderStr k ++ ':' :: ' ' :: text) = some ((k, v), rest) :=
  parseEntry_render ((parseValue_blank fuel text).trans hv)

mutual

/-- A value is read back from its text. -/
theorem parseValue_renderSpaced : ∀ (v : Json) (fuel : Nat) (rest : List Char), integral v →
    (renderSpaced v).length ≤ fuel → Stops rest →
    parseValue fuel (renderSpaced v ++ rest) = some (v, rest)
  | v, 0, rest, hv, hlen, _ => by
      obtain ⟨c, cs, heq, -⟩ := renderSpaced_head v hv
      rw [heq] at hlen
      simp at hlen
  -- a value without separators has one text only
  | null, fuel + 1, rest, hv, hlen, hrest => by
      rw [renderSpaced] at hlen ⊢
      have hplain := parseValue_render null (fuel + 1) rest hv (by rw [render]; exact hlen) hrest
      rwa [render] at hplain
  | bool true, fuel + 1, rest, hv, hlen, hrest => by
      rw [renderSpaced] at hlen ⊢
      have hplain := parseValue_render (bool true) (fuel + 1) rest hv (by rw [render]; exact hlen)
        hrest
      rwa [render] at hplain
  | bool false, fuel + 1, rest, hv, hlen, hrest => by
      rw [renderSpaced] at hlen ⊢
      have hplain := parseValue_render (bool false) (fuel + 1) rest hv (by rw [render]; exact hlen)
        hrest
      rwa [render] at hplain
  | float l, fuel + 1, rest, hv, _, _ => by cases hv
  | int n, fuel + 1, rest, hv, hlen, hrest => by
      rw [renderSpaced] at hlen ⊢
      have hplain := parseValue_render (int n) (fuel + 1) rest hv (by rw [render]; exact hlen) hrest
      rwa [render] at hplain
  | str s, fuel + 1, rest, _, _, _ => by
      rw [renderSpaced]
      exact parseValue_str s rest fuel
  | arr [], fuel + 1, rest, hv, hlen, hrest => by
      rw [renderSpaced] at hlen ⊢
      have hplain := parseValue_render (arr []) (fuel + 1) rest hv (by rw [render]; exact hlen) hrest
      rwa [render] at hplain
  | arr (v :: vs), fuel + 1, rest, hv, hlen, _ => by
      simp only [integral, integralItems, Bool.and_eq_true] at hv
      simp only [renderSpaced, List.length_cons, List.length_append] at hlen
      rw [renderSpaced, List.cons_append, List.append_assoc]
      exact parseValue_arr (renderSpaced_append_head hv.1 _)
        (parseValue_renderSpaced v fuel _ hv.1 (by omega) (renderSpacedMore_stops vs rest))
        (parseMore_renderSpaced vs fuel rest hv.2 (by omega))
  | obj [], fuel + 1, rest, hv, hlen, hrest => by
      rw [renderSpaced] at hlen ⊢
      have hplain := parseValue_render (obj []) (fuel + 1) rest hv (by rw [render]; exact hlen) hrest
      rwa [render] at hplain
  | obj ((k, v) :: es), fuel + 1, rest, hv, hlen, _ => by
      simp only [integral, integralEntries, Bool.and_eq_true] at hv
      simp only [renderSpaced, List.length_cons, List.length_append] at hlen
      rw [renderSpaced, List.cons_append, List.append_assoc, List.cons_append, List.cons_append,
        List.append_assoc]
      obtain ⟨fuel, rfl⟩ : ∃ m, fuel = m + 1 := ⟨fuel - 1, by omega⟩
      refine parseValue_obj ⟨'"', _, rfl, by decide, by decide, by decide⟩ (parseEntry_spaced
        (parseValue_renderSpaced v fuel _ hv.1 (by omega) (renderSpacedEntries_stops es rest)))
        (parseEntries_renderSpaced es (fuel + 1) rest hv.2 (by omega))

theorem parseMore_renderSpaced : ∀ (vs : List Json) (fuel : Nat) (rest : List Char),
    integralItems vs → (renderSpacedMore vs).length ≤ fuel →
    parseMore fuel (renderSpacedMore vs ++ rest) = some (vs, rest)
  | [], 0, rest, _, hlen => by simp [renderSpacedMore] at hlen
  | [], fuel + 1, rest, _, _ => by
      rw [renderSpacedMore, parseMore]
      rfl
  | v :: vs, 0, rest, _, hlen => by simp [renderSpacedMore] at hlen
  | v :: vs, fuel + 1, rest, hv, hlen => by
      simp only [integralItems, Bool.and_eq_true] at hv
      simp only [renderSpacedMore, List.length_cons, List.length_append] at hlen
      rw [renderSpacedMore, List.cons_append, List.cons_append, List.append_assoc, parseMore,
        skipWs_cons (by decide)]
      simp only [parseValue_blank,
        parseValue_renderSpaced v fuel _ hv.1 (by omega) (renderSpacedMore_stops vs rest),
        parseMore_renderSpaced vs fuel rest hv.2 (by omega), Option.map_some]

theorem parseEntries_renderSpaced : ∀ (es : List (String × Json)) (fuel : Nat) (rest : List Char),
    integralEntries es → (renderSpacedEntries es).length ≤ fuel →
    parseEntries fuel (renderSpacedEntries es ++ rest) = some (es, rest)
  | [], 0, rest, _, hlen => by simp [renderSpacedEntries] at hlen
  | [], fuel + 1, rest, _, _ => by
      rw [renderSpacedEntries, parseEntries]
      rfl
  | (k, v) :: es, 0, rest, _, hlen => by simp [renderSpacedEntries] at hlen
  | (k, v) :: es, fuel + 1, rest, hv, hlen => by
      simp only [integralEntries, Bool.and_eq_true] at hv
      simp only [renderSpacedEntries, List.length_cons, List.length_append] at hlen
      rw [renderSpacedEntries, List.cons_append, List.cons_append, List.append_assoc,
        List.cons_append, List.cons_append, List.append_assoc, parseEntries,
        skipWs_cons (by decide)]
      obtain ⟨fuel, rfl⟩ : ∃ m, fuel = m + 1 := ⟨fuel - 1, by omega⟩
      simp only [parseEntry_blank, parseEntry_spaced (k := k)
          (parseValue_renderSpaced v fuel _ hv.1 (by omega) (renderSpacedEntries_stops es rest)),
        parseEntries_renderSpaced es (fuel + 1) rest hv.2 (by omega), Option.map_some]

end

/-- **Round trip.** A value without literals kept as text is read back from its text. -/
theorem loads_dumpsSpaced (v : Json) (hv : integral v) : loads (dumpsSpaced v) = some v := by
  have hparse := parseValue_renderSpaced v ((renderSpaced v).length + 1) [] hv (Nat.le_succ _)
    stops_nil
  rw [List.append_nil] at hparse
  rw [loads, dumpsSpaced, String.toList_ofList, hparse]
  rfl

example : dumpsSpaced (.obj [("a", .int 1), ("b", .arr [.null, .str "c"])])
    = "\x7b\"a\": 1, \"b\": [null, \"c\"]\x7d" := by decide

end Json
end Lib
