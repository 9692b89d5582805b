import Yakr.Lib.Json

/-!
# Yakr.Lib.JsonWriter

**Writers that differ in how they escape.** JSON libraries agree on the compact
text of a value except for the characters inside strings. `renderWith` writes a
value with a given escape of each character. Two of these texts are equal when the
escapes agree on the characters that occur, and a text holds what its escapes hold.
-/

namespace Lib
namespace Json

variable {esc : Char → List Char}

/-- A string literal. -/
def renderStrWith (esc : Char → List Char) (s : String) : List Char :=
  '"' :: (s.toList.flatMap esc ++ ['"'])

mutual

/-- The compact text of a value. -/
def renderWith (esc : Char → List Char) : Json → List Char
  | null => ['n', 'u', 'l', 'l']
  | bool true => ['t', 'r', 'u', 'e']
  | bool false => ['f', 'a', 'l', 's', 'e']
  | int n => renderInt n
  | float literal => literal.toList
  | str s => renderStrWith esc s
  | arr [] => ['[', ']']
  | arr (v :: vs) => '[' :: (renderWith esc v ++ renderMoreWith esc vs)
  | obj [] => ['{', '}']
  | obj ((k, v) :: es) =>
      '{' :: (renderStrWith esc k ++ ':' :: (renderWith esc v ++ renderEntriesWith esc es))

/-- The rest of an array after one item. -/
def renderMoreWith (esc : Char → List Char) : List Json → List Char
  | [] => [']']
  | v :: vs => ',' :: (renderWith esc v ++ renderMoreWith esc vs)

/-- The rest of an object after one entry. -/
def renderEntriesWith (esc : Char → List Char) : List (String × Json) → List Char
  | [] => ['}']
  | (k, v) :: es =>
      ',' :: (renderStrWith esc k ++ ':' :: (renderWith esc v ++ renderEntriesWith esc es))

end

mutual

/-- Every character of every string has a property. -/
def allChars (p : Char → Bool) : Json → Bool
  | str s => s.toList.all p
  | arr items => allCharsItems p items
  | obj entries => allCharsEntries p entries
  | _ => true

def allCharsItems (p : Char → Bool) : List Json → Bool
  | [] => true
  | v :: vs => allChars p v && allCharsItems p vs

def allCharsEntries (p : Char → Bool) : List (String × Json) → Bool
  | [] => true
  | (k, v) :: es => k.toList.all p && allChars p v && allCharsEntries p es

end

/-! ### Escapes that agree -/

section Agree

variable {esc' : Char → List Char} {p : Char → Bool}

theorem renderStrWith_congr (h : ∀ c, p c → esc c = esc' c) {s : String} (hs : s.toList.all p) :
    renderStrWith esc s = renderStrWith esc' s := by
  have hflat : s.toList.flatMap esc = s.toList.flatMap esc' := by
    refine List.flatMap_congr fun c hc => ?_
    exact h c (List.all_eq_true.mp hs c hc)
  rw [renderStrWith, renderStrWith, hflat]

mutual

/-- Escapes that agree on the characters of a value write the same text. -/
theorem renderWith_congr (h : ∀ c, p c → esc c = esc' c) : ∀ v : Json, allChars p v →
    renderWith esc v = renderWith esc' v
  | null, _ => rfl
  | bool true, _ => rfl
  | bool false, _ => rfl
  | int _, _ => by rw [renderWith, renderWith]
  | float _, _ => by rw [renderWith, renderWith]
  | str s, hv => by
      rw [renderWith, renderWith]
      exact renderStrWith_congr h hv
  | arr [], _ => by rw [renderWith, renderWith]
  | arr (v :: vs), hv => by
      simp only [allChars, allCharsItems, Bool.and_eq_true] at hv
      rw [renderWith, renderWith, renderWith_congr h v hv.1, renderMoreWith_congr h vs hv.2]
  | obj [], _ => by rw [renderWith, renderWith]
  | obj ((k, v) :: es), hv => by
      simp only [allChars, allCharsEntries, Bool.and_eq_true] at hv
      rw [renderWith, renderWith, renderStrWith_congr h hv.1.1, renderWith_congr h v hv.1.2,
        renderEntriesWith_congr h es hv.2]

theorem renderMoreWith_congr (h : ∀ c, p c → esc c = esc' c) : ∀ vs : List Json,
    allCharsItems p vs → renderMoreWith esc vs = renderMoreWith esc' vs
  | [], _ => rfl
  | v :: vs, hv => by
      simp only [allCharsItems, Bool.and_eq_true] at hv
      rw [renderMoreWith, renderMoreWith, renderWith_congr h v hv.1,
        renderMoreWith_congr h vs hv.2]

theorem renderEntriesWith_congr (h : ∀ c, p c → esc c = esc' c) : ∀ es : List (String × Json),
    allCharsEntries p es → renderEntriesWith esc es = renderEntriesWith esc' es
  | [], _ => rfl
  | (k, v) :: es, hv => by
      simp only [allCharsEntries, Bool.and_eq_true] at hv
      rw [renderEntriesWith, renderEntriesWith, renderStrWith_congr h hv.1.1,
        renderWith_congr h v hv.1.2, renderEntriesWith_congr h es hv.2]

end

end Agree

mutual

/-- The ASCII writer is the one with the ASCII escapes. -/
theorem renderWith_escapeChar : ∀ v : Json, renderWith escapeChar v = render v
  | null => rfl
  | bool true => rfl
  | bool false => rfl
  | int _ => by rw [renderWith, render]
  | float _ => by rw [renderWith, render]
  | str _ => by rw [renderWith, render, renderStrWith, renderStr]
  | arr [] => by rw [renderWith, render]
  | arr (v :: vs) => by
      rw [renderWith, render, renderWith_escapeChar v, renderMoreWith_escapeChar vs]
  | obj [] => by rw [renderWith, render]
  | obj ((k, v) :: es) => by
      rw [renderWith, render, renderStrWith, renderStr, renderWith_escapeChar v,
        renderEntriesWith_escapeChar es]

theorem renderMoreWith_escapeChar : ∀ vs : List Json,
    renderMoreWith escapeChar vs = renderMore vs
  | [] => rfl
  | v :: vs => by
      rw [renderMoreWith, renderMore, renderWith_escapeChar v, renderMoreWith_escapeChar vs]

theorem renderEntriesWith_escapeChar : ∀ es : List (String × Json),
    renderEntriesWith escapeChar es = renderEntries es
  | [] => rfl
  | (k, v) :: es => by
      rw [renderEntriesWith, renderEntries, renderStrWith, renderStr, renderWith_escapeChar v,
        renderEntriesWith_escapeChar es]

end

/-! ### Characters of a text -/

/-- What is not a control character, and not beyond the printable ASCII range. -/
def Printable (c : Char) : Prop := 0x20 ≤ c.toNat ∧ c.toNat < 0x7f

instance (c : Char) : Decidable (Printable c) := inferInstanceAs (Decidable (_ ∧ _))

theorem printable_of_isDigit {c : Char} (h : c.isDigit) : Printable c := by
  simp only [Char.isDigit, Bool.and_eq_true, decide_eq_true_eq] at h
  have hlow : '0'.toNat ≤ c.toNat := h.1
  have hhigh : c.toNat ≤ '9'.toNat := h.2
  have h0 : '0'.toNat = 48 := rfl
  have h9 : '9'.toNat = 57 := rfl
  exact ⟨by omega, by omega⟩

theorem printable_of_all {cs : List Char} (h : cs.all fun c => decide (Printable c)) :
    ∀ c ∈ cs, Printable c := by
  intro c hc
  exact of_decide_eq_true (List.all_eq_true.mp h c hc)

theorem printable_hexChar {n : Nat} (h : n < 16) : Printable (hexChar n) := by
  have table : ∀ m < 16, Printable (hexChar m) := by decide
  exact table n h

theorem printable_hex4 {n : Nat} (h : n < 0x10000) : ∀ c ∈ hex4 n, Printable c := by
  intro c hc
  simp only [hex4, List.mem_cons, List.not_mem_nil, or_false] at hc
  rcases hc with rfl | rfl | rfl | rfl
  · exact printable_hexChar (by omega)
  · exact printable_hexChar (by omega)
  · exact printable_hexChar (by omega)
  · exact printable_hexChar (by omega)

/-- An ASCII escape is printable. -/
theorem printable_escapeChar (c : Char) : ∀ d ∈ escapeChar c, Printable d := by
  have hvalid : c.toNat < 0xD800 ∨ 0xDFFF < c.toNat ∧ c.toNat < 0x110000 := c.valid
  unfold escapeChar
  split_ifs with hquote hback hnl hcr htab hbs hff hplain hbasic
  · exact printable_of_all (by decide)
  · exact printable_of_all (by decide)
  · exact printable_of_all (by decide)
  · exact printable_of_all (by decide)
  · exact printable_of_all (by decide)
  · exact printable_of_all (by decide)
  · exact printable_of_all (by decide)
  · intro d hd
    obtain rfl := List.mem_singleton.mp hd
    exact hplain
  · intro d hd
    rcases List.mem_cons.mp hd with rfl | hd
    · decide
    · rcases List.mem_cons.mp hd with rfl | hd
      · decide
      · exact printable_hex4 hbasic d hd
  · have hpair : ∀ n < 0x10000, ∀ d ∈ '\\' :: 'u' :: hex4 n, Printable d := by
      intro n hn d hd
      rcases List.mem_cons.mp hd with rfl | hd
      · decide
      · rcases List.mem_cons.mp hd with rfl | hd
        · decide
        · exact printable_hex4 hn d hd
    intro d hd
    rcases List.mem_append.mp hd with hd | hd
    · exact hpair _ (by omega) d hd
    · exact hpair _ (by omega) d hd

theorem printable_renderInt (n : Int) : ∀ c ∈ renderInt n, Printable c := by
  have hdigits : ∀ m : Nat, ∀ c ∈ Nat.toDigits 10 m, Printable c := by
    intro m c hc
    exact printable_of_isDigit (Nat.isDigit_of_mem_toDigits (b := 10) (n := m) (by decide)
      (by decide) hc)
  cases n with
  | ofNat n => exact hdigits n
  | negSucc n =>
      intro c hc
      rcases List.mem_cons.mp hc with rfl | hc
      · decide
      · exact hdigits (n + 1) c hc

theorem printable_renderStr (s : String) : ∀ c ∈ renderStr s, Printable c := by
  intro c hc
  rcases List.mem_cons.mp hc with rfl | hc
  · decide
  · rcases List.mem_append.mp hc with hc | hc
    · obtain ⟨d, -, hd⟩ := List.mem_flatMap.mp hc
      exact printable_escapeChar d c hd
    · obtain rfl := List.mem_singleton.mp hc
      decide

mutual

/-- The ASCII text of a value is printable. -/
theorem printable_render : ∀ v : Json, integral v → ∀ c ∈ render v, Printable c
  | null, _ => printable_of_all (by decide)
  | bool true, _ => printable_of_all (by decide)
  | bool false, _ => printable_of_all (by decide)
  | int n, _ => by
      rw [render]
      exact printable_renderInt n
  | float _, hv => by cases hv
  | str s, _ => by
      rw [render]
      exact printable_renderStr s
  | arr [], _ => printable_of_all (by decide)
  | arr (v :: vs), hv => by
      simp only [integral, integralItems, Bool.and_eq_true] at hv
      simp only [render, List.forall_mem_cons, List.forall_mem_append]
      exact ⟨by decide, printable_render v hv.1, printable_renderMore vs hv.2⟩
  | obj [], _ => printable_of_all (by decide)
  | obj ((k, v) :: es), hv => by
      simp only [integral, integralEntries, Bool.and_eq_true] at hv
      simp only [render, List.forall_mem_cons, List.forall_mem_append]
      exact ⟨by decide, printable_renderStr k, by decide, printable_render v hv.1,
        printable_renderEntries es hv.2⟩

theorem printable_renderMore : ∀ vs : List Json, integralItems vs →
    ∀ c ∈ renderMore vs, Printable c
  | [], _ => printable_of_all (by decide)
  | v :: vs, hv => by
      simp only [integralItems, Bool.and_eq_true] at hv
      simp only [renderMore, List.forall_mem_cons, List.forall_mem_append]
      exact ⟨by decide, printable_render v hv.1, printable_renderMore vs hv.2⟩

theorem printable_renderEntries : ∀ es : List (String × Json), integralEntries es →
    ∀ c ∈ renderEntries es, Printable c
  | [], _ => printable_of_all (by decide)
  | (k, v) :: es, hv => by
      simp only [integralEntries, Bool.and_eq_true] at hv
      simp only [renderEntries, List.forall_mem_cons, List.forall_mem_append]
      exact ⟨by decide, printable_renderStr k, by decide, printable_render v hv.1,
        printable_renderEntries es hv.2⟩

end

/-- The text holds the whole escape of a character without the property. -/
def Shows (esc : Char → List Char) (p : Char → Bool) (text : List Char) : Prop :=
  ∃ c, p c = false ∧ esc c ⊆ text

section Shows

variable {p : Char → Bool} {text text' : List Char}

theorem Shows.mono (h : Shows esc p text) (hsub : text ⊆ text') : Shows esc p text' := by
  obtain ⟨c, hc, hesc⟩ := h
  exact ⟨c, hc, fun _ hd => hsub (hesc hd)⟩

theorem shows_renderStrWith {s : String} (hs : s.toList.all p = false) :
    Shows esc p (renderStrWith esc s) := by
  obtain ⟨c, hc, hp⟩ := List.all_eq_false.mp hs
  refine ⟨c, by simpa using hp, fun d hd => ?_⟩
  exact List.mem_cons_of_mem _ (List.mem_append_left _ (List.mem_flatMap.mpr ⟨c, hc, hd⟩))

mutual

/-- A character without the property shows in the text of a value. -/
theorem shows_renderWith : ∀ v : Json, allChars p v = false → Shows esc p (renderWith esc v)
  | null, hv => by cases hv
  | bool _, hv => by cases hv
  | int _, hv => by cases hv
  | float _, hv => by cases hv
  | str s, hv => by
      rw [renderWith]
      exact shows_renderStrWith hv
  | arr [], hv => by cases hv
  | arr (v :: vs), hv => by
      simp only [allChars, allCharsItems, Bool.and_eq_false_iff] at hv
      rw [renderWith]
      rcases hv with hv | hv
      · exact (shows_renderWith v hv).mono fun _ hd => by simp [hd]
      · exact (shows_renderMoreWith vs hv).mono fun _ hd => by simp [hd]
  | obj [], hv => by cases hv
  | obj ((k, v) :: es), hv => by
      simp only [allChars, allCharsEntries, Bool.and_eq_false_iff] at hv
      rw [renderWith]
      rcases hv with (hk | hv) | hes
      · exact (shows_renderStrWith hk).mono fun _ hd => by simp [hd]
      · exact (shows_renderWith v hv).mono fun _ hd => by simp [hd]
      · exact (shows_renderEntriesWith es hes).mono fun _ hd => by simp [hd]

theorem shows_renderMoreWith : ∀ vs : List Json, allCharsItems p vs = false →
    Shows esc p (renderMoreWith esc vs)
  | [], hv => by cases hv
  | v :: vs, hv => by
      simp only [allCharsItems, Bool.and_eq_false_iff] at hv
      rw [renderMoreWith]
      rcases hv with hv | hv
      · exact (shows_renderWith v hv).mono fun _ hd => by simp [hd]
      · exact (shows_renderMoreWith vs hv).mono fun _ hd => by simp [hd]

theorem shows_renderEntriesWith : ∀ es : List (String × Json), allCharsEntries p es = false →
    Shows esc p (renderEntriesWith esc es)
  | [], hv => by cases hv
  | (k, v) :: es, hv => by
      simp only [allCharsEntries, Bool.and_eq_false_iff] at hv
      rw [renderEntriesWith]
      rcases hv with (hk | hv) | hes
      · exact (shows_renderStrWith hk).mono fun _ hd => by simp [hd]
      · exact (shows_renderWith v hv).mono fun _ hd => by simp [hd]
      · exact (shows_renderEntriesWith es hes).mono fun _ hd => by simp [hd]

end

/-- **Which values two writers agree on.** A writer whose escapes are the ASCII ones for the
characters with a property, and not printable for the others, writes the ASCII text of a
value exactly when all its characters have the property. -/
theorem renderWith_eq_render_iff (hagree : ∀ c, p c → esc c = escapeChar c)
    (hdiffer : ∀ c, p c = false → ∃ d ∈ esc c, ¬ Printable d) {v : Json} (hv : integral v) :
    renderWith esc v = render v ↔ allChars p v := by
  constructor
  · intro heq
    by_contra hall
    obtain ⟨c, hc, hesc⟩ := shows_renderWith v (by simpa using hall)
    obtain ⟨d, hd, hprint⟩ := hdiffer c hc
    exact hprint (printable_render v hv d (heq ▸ hesc hd))
  · intro hall
    rw [renderWith_congr hagree v hall, renderWith_escapeChar]

end Shows

end Json
end Lib
