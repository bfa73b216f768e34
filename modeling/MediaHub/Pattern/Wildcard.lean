import Mathlib.Data.List.Forall2
import Mathlib.Tactic.Common

/-!
Patterns with wildcards, and the words they stand for. A pattern is read from its left end by the
rule of each symbol; a table over the prefixes of a word reads it from its right end.
-/

namespace Wildcard

universe u v

/-- Any word, any one letter, or one given letter. -/
inductive Symbol (σ : Type u) where
  | any
  | one
  | lit (a : σ)

variable {σ : Type u} {α : Type v}

/-- The same symbol with another letter. -/
def Symbol.map {τ : Type*} (f : τ → σ) : Symbol τ → Symbol σ
  | .any => .any
  | .one => .one
  | .lit a => .lit (f a)

/-- The words a pattern stands for; `same a c` says that the letter `c` may stand for `a`. -/
inductive Matches (same : σ → α → Prop) : List (Symbol σ) → List α → Prop
  | nil : Matches same [] []
  | any {pattern word} (front : List α) (h : Matches same pattern word) :
      Matches same (.any :: pattern) (front ++ word)
  | one {pattern word} (c : α) (h : Matches same pattern word) :
      Matches same (.one :: pattern) (c :: word)
  | lit {pattern word a c} (hsame : same a c) (h : Matches same pattern word) :
      Matches same (.lit a :: pattern) (c :: word)

variable {same : σ → α → Prop} {pattern : List (Symbol σ)} {word : List α}

@[simp] theorem matches_nil_iff : Matches same [] word ↔ word = [] := by
  constructor
  · rintro ⟨⟩
    rfl
  · rintro rfl
    exact .nil

theorem matches_any_cons_iff :
    Matches same (.any :: pattern) word ↔
      ∃ front rest, word = front ++ rest ∧ Matches same pattern rest := by
  constructor
  · rintro ⟨⟩
    next rest front h => exact ⟨front, rest, rfl, h⟩
  · rintro ⟨front, rest, rfl, h⟩
    exact .any front h

theorem matches_one_cons_iff :
    Matches same (.one :: pattern) word ↔
      ∃ c rest, word = c :: rest ∧ Matches same pattern rest := by
  constructor
  · rintro ⟨⟩
    next rest c h => exact ⟨c, rest, rfl, h⟩
  · rintro ⟨c, rest, rfl, h⟩
    exact .one c h

theorem matches_lit_cons_iff {a : σ} :
    Matches same (.lit a :: pattern) word ↔
      ∃ c rest, word = c :: rest ∧ same a c ∧ Matches same pattern rest := by
  constructor
  · rintro ⟨⟩
    next rest c hsame h => exact ⟨c, rest, rfl, hsame, h⟩
  · rintro ⟨c, rest, rfl, hsame, h⟩
    exact .lit hsame h

/-- A word is matched by two patterns in a row when it splits into a word for each. -/
theorem matches_append_iff {front back : List (Symbol σ)} :
    Matches same (front ++ back) word ↔
      ∃ left right, word = left ++ right ∧ Matches same front left ∧ Matches same back right := by
  induction front generalizing word with
  | nil => simp
  | cons symbol front ih =>
      cases symbol with
      | any =>
          rw [List.cons_append, matches_any_cons_iff]
          constructor
          · rintro ⟨skipped, rest, rfl, h⟩
            obtain ⟨left, right, rfl, hleft, hright⟩ := ih.1 h
            exact ⟨skipped ++ left, right, by simp, .any skipped hleft, hright⟩
          · rintro ⟨left, right, rfl, hleft, hright⟩
            obtain ⟨skipped, rest, rfl, hrest⟩ := matches_any_cons_iff.1 hleft
            exact ⟨skipped, rest ++ right, by simp, ih.2 ⟨rest, right, rfl, hrest, hright⟩⟩
      | one =>
          rw [List.cons_append, matches_one_cons_iff]
          constructor
          · rintro ⟨c, rest, rfl, h⟩
            obtain ⟨left, right, rfl, hleft, hright⟩ := ih.1 h
            exact ⟨c :: left, right, rfl, .one c hleft, hright⟩
          · rintro ⟨left, right, rfl, hleft, hright⟩
            obtain ⟨c, rest, rfl, hrest⟩ := matches_one_cons_iff.1 hleft
            exact ⟨c, rest ++ right, rfl, ih.2 ⟨rest, right, rfl, hrest, hright⟩⟩
      | lit a =>
          rw [List.cons_append, matches_lit_cons_iff]
          constructor
          · rintro ⟨c, rest, rfl, hsame, h⟩
            obtain ⟨left, right, rfl, hleft, hright⟩ := ih.1 h
            exact ⟨c :: left, right, rfl, .lit hsame hleft, hright⟩
          · rintro ⟨left, right, rfl, hleft, hright⟩
            obtain ⟨c, rest, rfl, hsame, hrest⟩ := matches_lit_cons_iff.1 hleft
            exact ⟨c, rest ++ right, rfl, hsame, ih.2 ⟨rest, right, rfl, hrest, hright⟩⟩

/-- Each letter of a pattern is found in the word. -/
theorem Matches.exists_mem {a : σ} (h : Matches same pattern word) (ha : .lit a ∈ pattern) :
    ∃ c ∈ word, same a c := by
  induction h with
  | nil => simp at ha
  | any front _ ih =>
      obtain ⟨c, hc, hsame⟩ := ih (by simpa using ha)
      exact ⟨c, List.mem_append_right front hc, hsame⟩
  | one c _ ih =>
      obtain ⟨d, hd, hsame⟩ := ih (by simpa using ha)
      exact ⟨d, List.mem_cons_of_mem c hd, hsame⟩
  | lit hsame' _ ih =>
      rcases List.mem_cons.1 ha with heq | ha
      · cases heq
        exact ⟨_, List.mem_cons_self, hsame'⟩
      · obtain ⟨d, hd, hsame⟩ := ih ha
        exact ⟨d, List.mem_cons_of_mem _ hd, hsame⟩

/-- Letters alone stand for themselves. -/
theorem matches_map_lit_iff {letters : List σ} :
    Matches same (letters.map .lit) word ↔ List.Forall₂ same letters word := by
  induction letters generalizing word with
  | nil => simp
  | cons a letters ih =>
      rw [List.map_cons, matches_lit_cons_iff, List.forall₂_cons_left_iff]
      constructor
      · rintro ⟨c, rest, rfl, hsame, h⟩
        exact ⟨c, rest, hsame, ih.1 h, rfl⟩
      · rintro ⟨c, rest, hsame, h, rfl⟩
        exact ⟨c, rest, rfl, hsame, ih.2 h⟩

/-- A letter is matched as what it is read as. -/
theorem matches_map_iff {τ β : Type*} {f : τ → σ} {g : β → α} {letters : List (Symbol τ)}
    {text : List β} :
    Matches same (letters.map (Symbol.map f)) (text.map g) ↔
      Matches (fun a c => same (f a) (g c)) letters text := by
  induction letters generalizing text with
  | nil => simp
  | cons symbol letters ih =>
      cases symbol with
      | any =>
          rw [List.map_cons, Symbol.map, matches_any_cons_iff, matches_any_cons_iff]
          constructor
          · rintro ⟨front, rest, heq, h⟩
            obtain ⟨left, right, rfl, rfl, rfl⟩ := List.map_eq_append_iff.1 heq
            exact ⟨left, right, rfl, ih.1 h⟩
          · rintro ⟨front, rest, rfl, h⟩
            exact ⟨front.map g, rest.map g, List.map_append, ih.2 h⟩
      | one =>
          rw [List.map_cons, Symbol.map, matches_one_cons_iff, matches_one_cons_iff]
          constructor
          · rintro ⟨c, rest, heq, h⟩
            obtain ⟨d, right, rfl, rfl, rfl⟩ := List.map_eq_cons_iff.1 heq
            exact ⟨d, right, rfl, ih.1 h⟩
          · rintro ⟨c, rest, rfl, h⟩
            exact ⟨g c, rest.map g, rfl, ih.2 h⟩
      | lit a =>
          rw [List.map_cons, Symbol.map, matches_lit_cons_iff, matches_lit_cons_iff]
          constructor
          · rintro ⟨c, rest, heq, hsame, h⟩
            obtain ⟨d, right, rfl, rfl, rfl⟩ := List.map_eq_cons_iff.1 heq
            exact ⟨d, right, rfl, hsame, ih.1 h⟩
          · rintro ⟨c, rest, rfl, hsame, h⟩
            exact ⟨g c, rest.map g, rfl, hsame, ih.2 h⟩

/-- A pattern with one wildcard stands for what begins and ends as it does, with anything
between. -/
theorem matches_around_any_iff {before after word : List σ} :
    Matches (· = ·) (before.map .lit ++ .any :: after.map .lit) word ↔
      ∃ middle, word = before ++ middle ++ after := by
  rw [matches_append_iff]
  simp only [matches_any_cons_iff, matches_map_lit_iff, List.forall₂_eq_eq_eq]
  constructor
  · rintro ⟨left, right, rfl, rfl, middle, rest, rfl, rfl⟩
    exact ⟨middle, by rw [List.append_assoc]⟩
  · rintro ⟨middle, rfl⟩
    exact ⟨before, middle ++ after, by rw [List.append_assoc], rfl, middle, after, rfl, rfl⟩

/-- Whether a symbol other than `any` takes the letter. -/
def Symbol.Takes (same : σ → α → Prop) : Symbol σ → α → Prop
  | .any, _ => False
  | .one, _ => True
  | .lit a, c => same a c

theorem matches_singleton_iff {symbol : Symbol σ} (hany : symbol ≠ .any) :
    Matches same [symbol] word ↔ ∃ c, word = [c] ∧ symbol.Takes same c := by
  cases symbol with
  | any => exact absurd rfl hany
  | one => simp [matches_one_cons_iff, Symbol.Takes]
  | lit a => simp [matches_lit_cons_iff, Symbol.Takes]

theorem not_matches_concat_nil {symbol : Symbol σ} (hany : symbol ≠ .any) :
    ¬ Matches same (pattern ++ [symbol]) [] := by
  rw [matches_append_iff]
  rintro ⟨left, right, heq, _, hright⟩
  obtain ⟨c, rfl, _⟩ := (matches_singleton_iff hany).1 hright
  simp at heq

theorem matches_concat_iff {symbol : Symbol σ} (hany : symbol ≠ .any) {c : α} :
    Matches same (pattern ++ [symbol]) (word ++ [c]) ↔
      Matches same pattern word ∧ symbol.Takes same c := by
  rw [matches_append_iff]
  constructor
  · rintro ⟨left, right, heq, hleft, hright⟩
    obtain ⟨d, rfl, htakes⟩ := (matches_singleton_iff hany).1 hright
    obtain ⟨rfl, hd⟩ := List.append_inj' heq rfl
    obtain rfl : c = d := by simpa using hd
    exact ⟨hleft, htakes⟩
  · rintro ⟨hleft, htakes⟩
    exact ⟨word, [c], rfl, hleft, (matches_singleton_iff hany).2 ⟨c, rfl, htakes⟩⟩

theorem matches_concat_any_nil_iff :
    Matches same (pattern ++ [.any]) [] ↔ Matches same pattern [] := by
  rw [matches_append_iff]
  constructor
  · rintro ⟨left, right, heq, hleft, _⟩
    obtain ⟨rfl, _⟩ := List.append_eq_nil_iff.1 heq.symm
    exact hleft
  · intro h
    have hnil : Matches same [.any] [] := .any [] .nil
    exact ⟨[], [], rfl, h, hnil⟩

theorem matches_concat_any_iff :
    Matches same (pattern ++ [.any]) word ↔
      ∃ left right, word = left ++ right ∧ Matches same pattern left := by
  rw [matches_append_iff]
  constructor
  · rintro ⟨left, right, heq, hleft, _⟩
    exact ⟨left, right, heq, hleft⟩
  · rintro ⟨left, right, heq, hleft⟩
    have hright : Matches same [.any] (right ++ []) := .any right .nil
    rw [List.append_nil] at hright
    exact ⟨left, right, heq, hleft, hright⟩

theorem matches_concat_any_concat_iff {c : α} :
    Matches same (pattern ++ [.any]) (word ++ [c]) ↔
      Matches same pattern (word ++ [c]) ∨ Matches same (pattern ++ [.any]) word := by
  constructor
  · intro h
    obtain ⟨left, right, heq, hleft⟩ := matches_concat_any_iff.1 h
    rcases List.eq_nil_or_concat right with rfl | ⟨right, d, rfl⟩
    · rw [List.append_nil] at heq
      exact Or.inl (heq ▸ hleft)
    · rw [List.concat_eq_append, ← List.append_assoc] at heq
      obtain ⟨rfl, _⟩ := List.append_inj' heq rfl
      exact Or.inr (matches_concat_any_iff.2 ⟨left, right, rfl, hleft⟩)
  · rintro (h | h)
    · exact matches_concat_any_iff.2 ⟨word ++ [c], [], by simp, h⟩
    · obtain ⟨left, right, rfl, hleft⟩ := matches_concat_any_iff.1 h
      exact matches_concat_any_iff.2 ⟨left, right ++ [c], by simp, hleft⟩

/-- The entries say of each prefix of `front ++ word` that is at least `front` whether it has the
property. -/
def Table (p : List α → Prop) : List α → List α → List Bool → Prop
  | front, [], row => ∃ b, row = [b] ∧ (b = true ↔ p front)
  | front, c :: word, row =>
      ∃ b rest, row = b :: rest ∧ (b = true ↔ p front) ∧ Table p (front ++ [c]) word rest

variable {p : List α → Prop} {front : List α} {row : List Bool}

theorem Table.exists_cons (h : Table p front word row) :
    ∃ b rest, row = b :: rest ∧ (b = true ↔ p front) := by
  cases word with
  | nil =>
      obtain ⟨b, rfl, hb⟩ := h
      exact ⟨b, [], rfl, hb⟩
  | cons c word =>
      obtain ⟨b, rest, rfl, hb, _⟩ := h
      exact ⟨b, rest, rfl, hb⟩

theorem Table.head (h : Table p front word row) (d : Bool) : row.headD d = true ↔ p front := by
  obtain ⟨b, rest, rfl, hb⟩ := h.exists_cons
  exact hb

/-- The last entry is about the whole word. -/
theorem Table.getLastD (h : Table p front word row) (d : Bool) :
    row.getLastD d = true ↔ p (front ++ word) := by
  induction word generalizing front row d with
  | nil =>
      obtain ⟨b, rfl, hb⟩ := h
      simpa using hb
  | cons c word ih =>
      obtain ⟨b, rest, rfl, _, hrest⟩ := h
      rw [List.getLastD_cons, ih hrest, List.append_assoc, List.singleton_append]

theorem Table.length (h : Table p front word row) : row.length = word.length + 1 := by
  induction word generalizing front row with
  | nil =>
      obtain ⟨b, rfl, _⟩ := h
      rfl
  | cons c word ih =>
      obtain ⟨b, rest, rfl, _, hrest⟩ := h
      rw [List.length_cons, ih hrest, List.length_cons]

/-- The part of the word a symbol stands for. -/
def Symbol.Stands (same : σ → α → Prop) : Symbol σ → List α → Prop
  | .any, _ => True
  | .one, part => part.length = 1
  | .lit a, part => ∃ c, part = [c] ∧ same a c

theorem matches_cons_iff {symbol : Symbol σ} :
    Matches same (symbol :: pattern) word ↔
      ∃ part rest, word = part ++ rest ∧ symbol.Stands same part ∧ Matches same pattern rest := by
  cases symbol with
  | any => simp [matches_any_cons_iff, Symbol.Stands]
  | one =>
      rw [matches_one_cons_iff]
      constructor
      · rintro ⟨c, rest, rfl, h⟩
        exact ⟨[c], rest, rfl, rfl, h⟩
      · rintro ⟨part, rest, rfl, hpart, h⟩
        obtain ⟨c, rfl⟩ := List.length_eq_one_iff.1 hpart
        exact ⟨c, rest, rfl, h⟩
  | lit a =>
      rw [matches_lit_cons_iff]
      constructor
      · rintro ⟨c, rest, rfl, hsame, h⟩
        exact ⟨[c], rest, rfl, ⟨c, rfl, hsame⟩, h⟩
      · rintro ⟨part, rest, rfl, ⟨c, rfl, hsame⟩, h⟩
        exact ⟨c, rest, rfl, hsame, h⟩

/-- A word is matched when it splits into a part for each symbol. -/
theorem matches_iff_exists_parts :
    Matches same pattern word ↔
      ∃ parts : List (List α), word = parts.flatten ∧
        List.Forall₂ (Symbol.Stands same) pattern parts := by
  induction pattern generalizing word with
  | nil =>
      rw [matches_nil_iff]
      constructor
      · rintro rfl
        exact ⟨[], rfl, .nil⟩
      · rintro ⟨parts, rfl, hparts⟩
        rw [List.forall₂_nil_left_iff.1 hparts, List.flatten_nil]
  | cons symbol pattern ih =>
      rw [matches_cons_iff]
      constructor
      · rintro ⟨part, rest, rfl, hpart, h⟩
        obtain ⟨parts, rfl, hparts⟩ := ih.1 h
        exact ⟨part :: parts, rfl, .cons hpart hparts⟩
      · rintro ⟨parts, rfl, hparts⟩
        obtain ⟨part, parts, hpart, hrest, rfl⟩ := List.forall₂_cons_left_iff.1 hparts
        exact ⟨part, parts.flatten, rfl, hpart, ih.2 ⟨parts, rfl, hrest⟩⟩

end Wildcard
