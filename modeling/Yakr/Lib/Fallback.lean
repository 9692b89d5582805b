import Mathlib.Data.List.Basic

/-!
# Yakr.Lib.Fallback

**Lookups with fallbacks over entries that may fail.** A table is built from entries whose
keys are computed, and computing one may raise. What such a table says about a key is a list
of *words*: a value, or the exception that came before it. The first word is the answer, a
fallback is an append, and a layer without a word on the key is no layer at all:

* `first_append` — asking one list and then another asks their append;
* `first_flatMap_cons` — a loop that returns at the first element with a word;
* `first_assigned` — assigning all entries to a dictionary and looking the key up.
-/

namespace Lib
namespace Fallback

variable {ε κ α β : Type} [DecidableEq κ]

/-- The first word, if there is one. -/
def first : List (Except ε α) → Except ε (Option α)
  | [] => .ok none
  | .ok a :: _ => .ok (some a)
  | .error e :: _ => .error e

/-- A reading with a fallback for where it finds nothing. -/
def otherwise (r s : Except ε (Option α)) : Except ε (Option α) :=
  match r with
  | .ok none => s
  | .ok (some a) => .ok (some a)
  | .error e => .error e

/-- The exceptions among the entries. -/
def raised : List (Except ε α) → List (Except ε β)
  | [] => []
  | .ok _ :: entries => raised entries
  | .error e :: entries => .error e :: raised entries

/-- The values among the entries. -/
def values : List (Except ε α) → List α
  | [] => []
  | .ok a :: entries => a :: values entries
  | .error _ :: entries => values entries

/-- The values under `k`. -/
def valuesOf (k : κ) (pairs : List (κ × α)) : List α :=
  (pairs.filter fun p => p.1 = k).map Prod.snd

/-- The words of a dictionary all entries are assigned to: every exception comes first, and of
the values the last assigned. -/
def assigned (k : κ) (entries : List (Except ε (κ × α))) : List (Except ε α) :=
  raised entries ++ (valuesOf k (values entries)).reverse.map .ok

/-- The words of an element whose reading may raise. -/
def orRaised (f : α → List (Except ε β)) : Except ε α → List (Except ε β)
  | .ok a => f a
  | .error e => [.error e]

/-- The word of a reading that may find nothing. -/
def present : Except ε (Option α) → List (Except ε α)
  | .ok none => []
  | .ok (some a) => [.ok a]
  | .error e => [.error e]

/-- All entries, or the first exception. -/
def collect (entries : List (Except ε α)) : Except ε (List α) := entries.mapM id

/-! ### Lists of entries -/

@[simp] theorem raised_append (xs ys : List (Except ε α)) :
    (raised (xs ++ ys) : List (Except ε β)) = raised xs ++ raised ys := by
  induction xs with
  | nil => rfl
  | cons x xs ih =>
      cases x with
      | error e => simp [raised, ih]
      | ok a => simp [raised, ih]

@[simp] theorem values_append (xs ys : List (Except ε α)) :
    values (xs ++ ys) = values xs ++ values ys := by
  induction xs with
  | nil => rfl
  | cons x xs ih =>
      cases x with
      | error e => simp [values, ih]
      | ok a => simp [values, ih]

@[simp] theorem valuesOf_append (k : κ) (xs ys : List (κ × α)) :
    valuesOf k (xs ++ ys) = valuesOf k xs ++ valuesOf k ys := by
  simp [valuesOf]

theorem mem_valuesOf {k : κ} {a : α} {pairs : List (κ × α)} :
    a ∈ valuesOf k pairs ↔ (k, a) ∈ pairs := by
  simp [valuesOf]

theorem mem_values {a : α} {xs : List (Except ε α)} : a ∈ values xs ↔ .ok a ∈ xs := by
  induction xs with
  | nil => simp [values]
  | cons x xs ih =>
      cases x with
      | error e => simp [values, ih]
      | ok b => simp [values, ih]

theorem mem_raised {b : β} {xs : List (Except ε α)} :
    .ok b ∉ (raised xs : List (Except ε β)) := by
  induction xs with
  | nil => simp [raised]
  | cons x xs ih =>
      cases x with
      | error e => simp [raised, ih]
      | ok a => simpa [raised] using ih

theorem raised_eq_nil {xs : List (Except ε α)} (h : ∀ e, .error e ∉ xs) :
    (raised xs : List (Except ε β)) = [] := by
  induction xs with
  | nil => rfl
  | cons x xs ih =>
      cases x with
      | error e => exact absurd List.mem_cons_self (h e)
      | ok a => exact ih fun e he => h e (List.mem_cons_of_mem _ he)

/-- A value a dictionary answers with was assigned. -/
theorem mem_assigned {k : κ} {a : α} {xs : List (Except ε (κ × α))} :
    .ok a ∈ assigned k xs ↔ .ok (k, a) ∈ xs := by
  simp [assigned, mem_raised, mem_valuesOf, mem_values]

theorem mem_orRaised {b : β} {f : α → List (Except ε β)} {r : Except ε α} :
    .ok b ∈ orRaised f r ↔ ∃ a, r = .ok a ∧ .ok b ∈ f a := by
  cases r <;> simp [orRaised]

theorem mem_present {a : α} {r : Except ε (Option α)} :
    .ok a ∈ present r ↔ r = .ok (some a) := by
  match r with
  | .ok none => simp [present]
  | .ok (some b) => simp [present, eq_comm]
  | .error e => simp [present]

/-- What the table of a reading says. -/
theorem mem_reading {b : β} {f : α → List (Except ε β)} {r : Except ε (Option α)} :
    .ok b ∈ (present r).flatMap (orRaised f) ↔ ∃ a, r = .ok (some a) ∧ .ok b ∈ f a := by
  match r with
  | .ok none => simp [present]
  | .ok (some a) => simp [present, orRaised]
  | .error e => simp [present, orRaised]

/-! ### The first word -/

@[simp] theorem otherwise_none (s : Except ε (Option α)) : otherwise (.ok none) s = s := rfl

@[simp] theorem otherwise_some (a : α) (s : Except ε (Option α)) :
    otherwise (.ok (some a)) s = .ok (some a) := rfl

@[simp] theorem otherwise_error (e : ε) (s : Except ε (Option α)) :
    otherwise (.error e) s = .error e := rfl

/-- A fallback is an append. -/
theorem first_append (xs ys : List (Except ε α)) :
    first (xs ++ ys) = otherwise (first xs) (first ys) := by
  cases xs with
  | nil => rfl
  | cons x xs =>
      cases x with
      | error e => rfl
      | ok a => rfl

/-- A loop that returns at the first element with a word. -/
theorem first_flatMap_cons {γ : Type} (f : γ → List (Except ε α)) (x : γ) (xs : List γ) :
    first ((x :: xs).flatMap f) = otherwise (first (f x)) (first (xs.flatMap f)) := by
  rw [List.flatMap_cons, first_append]

/-- The first word is `a` when the list begins with it. -/
theorem first_eq_some {xs : List (Except ε α)} {a : α} :
    first xs = .ok (some a) ↔ xs.head? = some (.ok a) := by
  cases xs with
  | nil => simp [first]
  | cons x xs =>
      cases x with
      | error e => simp [first]
      | ok b => simp [first]

theorem first_eq_none {xs : List (Except ε α)} : first xs = .ok none ↔ xs = [] := by
  cases xs with
  | nil => simp [first]
  | cons x xs =>
      cases x with
      | error e => simp [first]
      | ok b => simp [first]

theorem first_map_ok (xs : List α) : first (xs.map .ok : List (Except ε α)) = .ok xs.head? := by
  cases xs <;> rfl

theorem first_present (r : Except ε (Option α)) : first (present r) = r := by
  match r with
  | .ok none => rfl
  | .ok (some _) => rfl
  | .error _ => rfl

/-! ### Dictionaries -/

theorem collect_cons (x : Except ε α) (xs : List (Except ε α)) :
    collect (x :: xs) =
      match x with
      | .error e => .error e
      | .ok a =>
          match collect xs with
          | .error e => .error e
          | .ok as => .ok (a :: as) := by
  rw [collect, List.mapM_cons]
  cases x with
  | error e => rfl
  | ok a =>
      show (Except.bind (collect xs) fun as => .ok (a :: as)) = _
      cases collect xs <;> rfl

/-- The entries of a table that could be built. -/
theorem values_of_collect {xs : List (Except ε α)} {vs : List α} (h : collect xs = .ok vs) :
    vs = values xs := by
  induction xs generalizing vs with
  | nil =>
      cases h
      rfl
  | cons x xs ih =>
      rw [collect_cons] at h
      cases x with
      | error e => cases h
      | ok a =>
          cases hrest : collect xs with
          | error e => simp [hrest] at h
          | ok as =>
              simp only [hrest, Except.ok.injEq] at h
              rw [← h, ih hrest]
              rfl

/-- Every exception is raised before the table is there. -/
theorem first_raised_append (xs : List (Except ε α)) (ws : List (Except ε β)) :
    first (raised xs ++ ws) =
      match collect xs with
      | .error e => .error e
      | .ok _ => first ws := by
  induction xs with
  | nil => rfl
  | cons x xs ih =>
      rw [collect_cons]
      cases x with
      | error e => rfl
      | ok a =>
          show first (raised xs ++ ws) = _
          rw [ih]
          cases collect xs with
          | error e => rfl
          | ok as => rfl

theorem collect_append (xs ys : List (Except ε α)) :
    collect (xs ++ ys) = do
      let as ← collect xs
      let bs ← collect ys
      return as ++ bs := by
  induction xs with
  | nil =>
      show collect ys = Except.bind (collect ys) fun bs => .ok ([] ++ bs)
      cases collect ys <;> rfl
  | cons x xs ih =>
      rw [List.cons_append, collect_cons, collect_cons]
      cases x with
      | error e => rfl
      | ok a =>
          rw [ih]
          cases collect xs with
          | error e => rfl
          | ok as =>
              cases collect ys with
              | error e => rfl
              | ok bs => rfl

/-- Tables built part after part. -/
theorem collect_flatMap {γ : Type} (f : γ → List (Except ε α)) (xs : List γ) :
    collect (xs.flatMap f) = do
      let parts ← xs.mapM fun x => collect (f x)
      return parts.flatten := by
  induction xs with
  | nil => rfl
  | cons x xs ih =>
      rw [List.flatMap_cons, collect_append, ih, List.mapM_cons]
      cases collect (f x) with
      | error e => rfl
      | ok as =>
          show Except.bind (Except.bind (xs.mapM fun x => collect (f x)) _) _
            = Except.bind (Except.bind (xs.mapM fun x => collect (f x)) _) _
          cases xs.mapM fun x => collect (f x) with
          | error e => rfl
          | ok parts => rfl

/-- The table of what a reading finds. -/
theorem collect_present (f : α → List (Except ε β)) (r : Except ε (Option α)) :
    collect ((present r).flatMap (orRaised f)) = (do
      match ← r with
      | none => return []
      | some a => collect (f a)) := by
  match r with
  | .ok none => rfl
  | .ok (some a) =>
      show collect (f a ++ []) = collect (f a)
      rw [List.append_nil]
  | .error _ => rfl

theorem collect_map {γ : Type} (f : γ → Except ε α) (xs : List γ) :
    collect (xs.map f) = xs.mapM f := by
  induction xs with
  | nil => rfl
  | cons x xs ih =>
      rw [List.map_cons, collect_cons, List.mapM_cons, ih]
      cases f x with
      | error e => rfl
      | ok a =>
          show _ = Except.bind (xs.mapM f) fun as => .ok (a :: as)
          cases xs.mapM f <;> rfl

/-- A lookup in the last assignments. -/
theorem lookup_reverse (k : κ) (pairs : List (κ × α)) :
    pairs.reverse.lookup k = (valuesOf k pairs).reverse.head? := by
  have hlookup : ∀ qs : List (κ × α),
      qs.lookup k = ((qs.filter fun p => p.1 = k).map Prod.snd).head? := by
    intro qs
    induction qs with
    | nil => rfl
    | cons q qs ih =>
        obtain ⟨k', a⟩ := q
        by_cases hk : k' = k
        · simp [hk]
        · have hne : (k == k') = false := by simpa using Ne.symm hk
          simp [List.lookup_cons, hne, hk, ih]
  rw [hlookup, valuesOf, List.filter_reverse, List.map_reverse]

/-- A dictionary built from the entries answers with the first word. -/
theorem first_assigned (k : κ) (xs : List (Except ε (κ × α))) :
    first (assigned k xs) =
      match collect xs with
      | .error e => .error e
      | .ok pairs => .ok (pairs.reverse.lookup k) := by
  rw [assigned, first_raised_append]
  cases hpairs : collect xs with
  | error e => rfl
  | ok pairs =>
      show first ((valuesOf k (values xs)).reverse.map .ok) = .ok (pairs.reverse.lookup k)
      rw [lookup_reverse, values_of_collect hpairs]
      exact first_map_ok _

/-- A dictionary that answers was built without an exception. -/
theorem raised_of_first {k : κ} {r : Option α} {xs : List (Except ε (κ × α))}
    {ys : List (Except ε α)} (h : first (assigned k xs ++ ys) = .ok r) :
    (raised xs : List (Except ε α)) = [] := by
  cases hraised : (raised xs : List (Except ε α)) with
  | nil => rfl
  | cons w ws =>
      have hw : w ∈ (raised xs : List (Except ε α)) := hraised ▸ List.mem_cons_self
      rw [assigned, hraised] at h
      cases w with
      | ok a => exact absurd hw mem_raised
      | error e => cases h

/-- An entry that raises raises for the whole dictionary. -/
theorem first_of_error {k : κ} {e : ε} {xs : List (Except ε (κ × α))} (h : .error e ∈ xs)
    (ys : List (Except ε α)) : ∃ e', first (assigned k xs ++ ys) = .error e' := by
  have hne : ∀ zs : List (Except ε (κ × α)), .error e ∈ zs →
      ∃ e' ws, (raised zs : List (Except ε α)) = .error e' :: ws := by
    intro zs hzs
    induction zs with
    | nil => cases hzs
    | cons z zs ih =>
        cases z with
        | error e' => exact ⟨e', _, rfl⟩
        | ok a => exact ih (by simpa using hzs)
  obtain ⟨e', ws, hraised⟩ := hne xs h
  refine ⟨e', ?_⟩
  rw [assigned, hraised]
  rfl

end Fallback
end Lib
