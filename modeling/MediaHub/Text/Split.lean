import Mathlib.Data.List.DropRight
import Mathlib.Tactic.Common

namespace Text

universe u

variable {α : Type u} [DecidableEq α]

/-- The parts before and after the first separator. -/
def splitOnce (separator : α) : List α → Option (List α × List α)
  | [] => none
  | c :: rest =>
      if c = separator then some ([], rest)
      else (splitOnce separator rest).map fun parts => (c :: parts.1, parts.2)

theorem splitOnce_eq_some_iff {separator : α} {s before after : List α} :
    splitOnce separator s = some (before, after) ↔
      separator ∉ before ∧ s = before ++ separator :: after := by
  induction s generalizing before with
  | nil => simp [splitOnce]
  | cons c rest ih =>
      rw [splitOnce]
      split
      · next heq =>
          subst heq
          cases before with
          | nil => simp
          | cons d before =>
              simp only [Option.some.injEq, Prod.mk.injEq, reduceCtorEq, false_and, false_iff,
                List.cons_append, List.cons.injEq, List.mem_cons, not_or]
              rintro ⟨⟨hne, _⟩, heq, _⟩
              exact hne heq
      · next hne =>
          cases before with
          | nil =>
              simp only [Option.map_eq_some_iff, Prod.mk.injEq, reduceCtorEq, false_and, and_false,
                exists_false, List.nil_append, List.cons.injEq, false_iff, not_and]
              intro _ heq
              exact absurd heq hne
          | cons d before =>
              simp only [Option.map_eq_some_iff, Prod.exists, Prod.mk.injEq, List.cons.injEq]
              constructor
              · rintro ⟨first, second, hsplit, ⟨rfl, rfl⟩, rfl⟩
                obtain ⟨hnot, rfl⟩ := ih.1 hsplit
                exact ⟨by simp [hnot, Ne.symm hne], rfl⟩
              · rintro ⟨hnot, heq⟩
                obtain ⟨rfl, rfl⟩ := List.cons.inj heq
                exact ⟨before, after, ih.2 ⟨fun h => hnot (List.mem_cons_of_mem _ h), rfl⟩,
                  ⟨rfl, rfl⟩, rfl⟩

/-- The parts around a first separator are determined by the whole. -/
theorem append_separator_inj {separator : α} {a b x y : List α} (ha : separator ∉ a)
    (hb : separator ∉ b) (h : a ++ separator :: x = b ++ separator :: y) : a = b ∧ x = y := by
  have hsplit : splitOnce separator (a ++ separator :: x) = some (a, x) :=
    splitOnce_eq_some_iff.2 ⟨ha, rfl⟩
  rw [h, splitOnce_eq_some_iff.2 ⟨hb, rfl⟩] at hsplit
  obtain ⟨rfl, rfl⟩ := Prod.mk.inj (Option.some.inj hsplit)
  exact ⟨rfl, rfl⟩

theorem splitOnce_eq_none_iff {separator : α} {s : List α} :
    splitOnce separator s = none ↔ separator ∉ s := by
  induction s with
  | nil => simp [splitOnce]
  | cons c rest ih =>
      rw [splitOnce]
      split
      · next heq => simp [heq]
      · next hne => simp [ih, Ne.symm hne]

/-- A change of characters that neither makes nor removes separators keeps the parts. -/
theorem splitOnce_map {separator : α} {f : α → α} {s : List α}
    (h : ∀ c ∈ s, f c = separator ↔ c = separator) :
    splitOnce separator (s.map f) =
      (splitOnce separator s).map fun parts => (parts.1.map f, parts.2.map f) := by
  induction s with
  | nil => rfl
  | cons c rest ih =>
      obtain ⟨hc, hrest⟩ := List.forall_mem_cons.1 h
      rw [List.map_cons, splitOnce, splitOnce, ih hrest]
      by_cases heq : c = separator
      · rw [if_pos heq, if_pos (hc.2 heq)]
        rfl
      · rw [if_neg heq, if_neg (mt hc.1 heq), Option.map_map, Option.map_map]
        rfl

/-- The parts between the first separators, at most `n` of them. -/
def splitN (separator : α) : Nat → List α → List (List α)
  | 0, _ => []
  | 1, s => [s]
  | n + 2, s =>
      match splitOnce separator s with
      | some (before, after) => before :: splitN separator (n + 1) after
      | none => [s]

theorem splitN_append {separator : α} {before : List α} (h : separator ∉ before) (n : Nat)
    (after : List α) :
    splitN separator (n + 2) (before ++ separator :: after) =
      before :: splitN separator (n + 1) after := by
  rw [splitN, splitOnce_eq_some_iff.2 ⟨h, rfl⟩]

theorem splitOn_cons_of_ne {separator c : α} (h : c ≠ separator) (s : List α) :
    (c :: s).splitOn separator = (s.splitOn separator).modifyHead (c :: ·) := by
  rw [List.splitOn_cons_eq_if_modifyHead, if_neg (by simpa using h)]

theorem splitOn_cons_self (separator : α) (s : List α) :
    (separator :: s).splitOn separator = [] :: s.splitOn separator := by
  rw [List.splitOn_cons_eq_if_modifyHead, if_pos (by simp)]

/-- No piece holds the separator. -/
theorem notMem_of_mem_splitOn {separator : α} {s piece : List α}
    (h : piece ∈ s.splitOn separator) : separator ∉ piece := by
  induction s generalizing piece with
  | nil =>
      rw [List.splitOn_nil, List.mem_singleton] at h
      simp [h]
  | cons c rest ih =>
      by_cases hc : c = separator
      · subst hc
        rw [splitOn_cons_self, List.mem_cons] at h
        rcases h with rfl | h
        · simp
        · exact ih h
      · rw [splitOn_cons_of_ne hc] at h
        obtain ⟨head, pieces, heq⟩ :=
          List.exists_cons_of_ne_nil (List.splitOn_ne_nil separator rest)
        rw [heq, List.modifyHead_cons, List.mem_cons] at h
        rcases h with rfl | h
        · have hhead := ih (heq ▸ List.mem_cons_self)
          simp [hhead, Ne.symm hc]
        · exact ih (heq ▸ List.mem_cons_of_mem _ h)

theorem splitOn_append_of_notMem {separator : α} {initial : List α} (h : separator ∉ initial)
    (s : List α) :
    (initial ++ s).splitOn separator = (s.splitOn separator).modifyHead (initial ++ ·) := by
  obtain ⟨head, pieces, heq⟩ := List.exists_cons_of_ne_nil (List.splitOn_ne_nil separator s)
  induction initial with
  | nil => simp [heq]
  | cons c initial ih =>
      have hne : c ≠ separator := fun hc => h (by simp [hc])
      have hrest : separator ∉ initial := fun hmem => h (List.mem_cons_of_mem _ hmem)
      rw [List.cons_append, splitOn_cons_of_ne hne, ih hrest, heq]
      simp

/-- A text that starts with a word and a separator is one that is cut there at the word. -/
theorem dropPrefix?_of_splitOnce {separator : α} {word s before after : List α}
    (hword : separator ∉ word) (h : splitOnce separator s = some (before, after)) :
    s.dropPrefix? (word ++ [separator]) = if before = word then some after else none := by
  obtain ⟨hbefore, rfl⟩ := splitOnce_eq_some_iff.1 h
  split
  · next heq =>
      subst heq
      refine List.dropPrefix?_eq_some_iff.2 ⟨before ++ [separator], ?_, by simp⟩
      simp
  · next hne =>
      rw [Option.eq_none_iff_forall_ne_some]
      intro rest hdrop
      obtain ⟨front, heq, hfront⟩ := List.dropPrefix?_eq_some_iff.1 hdrop
      have hfront : front = word ++ [separator] := by simpa using hfront
      subst hfront
      have hsplit : splitOnce separator (before ++ separator :: after) = some (word, rest) :=
        splitOnce_eq_some_iff.2 ⟨hword, by simpa using heq⟩
      rw [hsplit] at h
      simp only [Option.some.injEq, Prod.mk.injEq] at h
      exact hne h.1.symm

omit [DecidableEq α] in
theorem mem_intercalate {separator c : α} {pieces : List (List α)}
    (h : c ∈ [separator].intercalate pieces) : c = separator ∨ ∃ piece ∈ pieces, c ∈ piece := by
  induction pieces with
  | nil => simp at h
  | cons piece pieces ih =>
      cases pieces with
      | nil =>
          rw [List.intercalate_singleton] at h
          exact Or.inr ⟨piece, List.mem_cons_self, h⟩
      | cons next pieces =>
          rw [List.intercalate_cons_cons, List.append_assoc, List.mem_append, List.mem_append,
            List.mem_singleton] at h
          rcases h with hpiece | hseparator | hrest
          · exact Or.inr ⟨piece, List.mem_cons_self, hpiece⟩
          · exact Or.inl hseparator
          · rcases ih hrest with hseparator | ⟨other, hother, hc⟩
            · exact Or.inl hseparator
            · exact Or.inr ⟨other, List.mem_cons_of_mem _ hother, hc⟩

omit [DecidableEq α] in
theorem mem_intercalate_of_mem {separator c : α} {pieces : List (List α)} {piece : List α}
    (hpiece : piece ∈ pieces) (hc : c ∈ piece) : c ∈ [separator].intercalate pieces := by
  induction pieces with
  | nil => exact absurd hpiece List.not_mem_nil
  | cons first pieces ih =>
      cases pieces with
      | nil =>
          obtain rfl := List.mem_singleton.1 hpiece
          rwa [List.intercalate_singleton]
      | cons next pieces =>
          rw [List.intercalate_cons_cons, List.append_assoc, List.mem_append]
          rcases List.mem_cons.1 hpiece with rfl | hrest
          · exact Or.inl hc
          · exact Or.inr (List.mem_append_right _ (ih hrest))

omit [DecidableEq α] in
theorem intercalate_append {separator : α} {pieces rest : List (List α)} (hpieces : pieces ≠ [])
    (hrest : rest ≠ []) :
    [separator].intercalate (pieces ++ rest) =
      [separator].intercalate pieces ++ separator :: [separator].intercalate rest := by
  induction pieces with
  | nil => exact absurd rfl hpieces
  | cons piece pieces ih =>
      rw [List.cons_append, List.intercalate_cons_of_ne_nil (by simp [hrest])]
      by_cases hnil : pieces = []
      · subst hnil
        rw [List.nil_append, List.intercalate_singleton, List.append_assoc, List.singleton_append]
      · rw [ih hnil, List.intercalate_cons_of_ne_nil hnil, List.append_assoc, List.append_assoc,
          List.append_assoc]

omit [DecidableEq α] in
/-- A piece that was joined itself is joined with the others. -/
theorem intercalate_intercalate {separator : α} {initial inner rest : List (List α)}
    (hinner : inner ≠ []) (hrest : rest ≠ []) :
    [separator].intercalate (initial ++ [separator].intercalate inner :: rest) =
      [separator].intercalate (initial ++ (inner ++ rest)) := by
  have hone : [separator].intercalate ([separator].intercalate inner :: rest) =
      [separator].intercalate (inner ++ rest) := by
    rw [List.intercalate_cons_of_ne_nil hrest, intercalate_append hinner hrest, List.append_assoc,
      List.singleton_append]
  by_cases hinitial : initial = []
  · rw [hinitial, List.nil_append, List.nil_append, hone]
  · rw [intercalate_append hinitial (List.cons_ne_nil _ _), hone,
      intercalate_append hinitial (by simp [hinner])]

/-- Pieces without the separator are known from what they are joined to. -/
theorem intercalate_inj {separator : α} {pieces pieces' : List (List α)} (hne : pieces ≠ [])
    (hne' : pieces' ≠ []) (h : ∀ piece ∈ pieces, separator ∉ piece)
    (h' : ∀ piece ∈ pieces', separator ∉ piece)
    (heq : [separator].intercalate pieces = [separator].intercalate pieces') :
    pieces = pieces' := by
  rw [← List.splitOn_intercalate separator h hne, heq, List.splitOn_intercalate separator h' hne']

section Trim

variable (blank : α → Bool)

def trim (s : List α) : List α := (s.rdropWhile blank).dropWhile blank

variable {blank}

omit [DecidableEq α] in
theorem rdropWhile_cons (c : α) (s : List α) :
    (c :: s).rdropWhile blank =
      if s.rdropWhile blank = [] then (if blank c then [] else [c])
      else c :: s.rdropWhile blank := by
  induction s using List.reverseRecOn with
  | nil =>
      cases hc : blank c <;> simp [List.rdropWhile, hc]
  | append_singleton s d ih =>
      rw [← List.cons_append, List.rdropWhile_concat, List.rdropWhile_concat]
      cases hd : blank d
      · simp
      · simpa using ih

omit [DecidableEq α] in
theorem trim_cons {c : α} (h : blank c) (s : List α) : trim blank (c :: s) = trim blank s := by
  unfold trim
  rw [rdropWhile_cons]
  split
  · next hnil => simp [hnil]
  · simp [h]

omit [DecidableEq α] in
theorem trim_cons_of_not {c : α} (h : blank c = false) (s : List α) :
    ∃ rest, trim blank (c :: s) = c :: rest := by
  unfold trim
  rw [rdropWhile_cons]
  split
  · exact ⟨[], by simp [h]⟩
  · exact ⟨s.rdropWhile blank, by simp [h]⟩

omit [DecidableEq α] in
theorem trim_eq_self {s : List α} (h : ∀ c ∈ s, blank c = false) : trim blank s = s := by
  have hright : s.rdropWhile blank = s := by
    rw [List.rdropWhile_eq_self_iff]
    intro hne
    simpa using h _ (List.getLast_mem hne)
  have hleft : s.dropWhile blank = s := by
    rw [List.dropWhile_eq_self_iff]
    intro hlt
    simpa using h _ (List.getElem_mem hlt)
  rw [trim, hright, hleft]

omit [DecidableEq α] in
theorem mem_of_mem_trim {c : α} {s : List α} (h : c ∈ trim blank s) : c ∈ s := by
  have hright : c ∈ s.rdropWhile blank := (List.dropWhile_suffix _).mem h
  exact (List.rdropWhile_prefix blank s).mem hright

omit [DecidableEq α] in
theorem trim_trim (s : List α) : trim blank (trim blank s) = trim blank s := by
  have hlast : (trim blank s).rdropWhile blank = trim blank s := by
    rw [List.rdropWhile_eq_self_iff]
    intro hne
    have hsuffix : trim blank s <:+ s.rdropWhile blank := List.dropWhile_suffix _
    rw [hsuffix.getLast hne]
    exact List.rdropWhile_last_not blank s _
  rw [trim, hlast, trim, List.dropWhile_idempotent]

omit [DecidableEq α] in
theorem trim_rdropWhile (s : List α) : trim blank (s.rdropWhile blank) = trim blank s := by
  unfold trim
  rw [List.rdropWhile_idempotent]

theorem map_rdropWhile_splitOn {separator : α} (hseparator : blank separator = false)
    {c : α} (hc : blank c) (s : List α) :
    ((s ++ [c]).splitOn separator).map (List.rdropWhile blank) =
      (s.splitOn separator).map (List.rdropWhile blank) := by
  have hne : c ≠ separator := by
    rintro rfl
    simp [hc] at hseparator
  induction s with
  | nil =>
      rw [List.nil_append, splitOn_cons_of_ne hne, List.splitOn_nil]
      simp [List.rdropWhile, hc]
  | cons d s ih =>
      by_cases hd : d = separator
      · subst hd
        rw [List.cons_append, splitOn_cons_self, splitOn_cons_self, List.map_cons,
          List.map_cons, ih]
      · rw [List.cons_append, splitOn_cons_of_ne hd, splitOn_cons_of_ne hd]
        obtain ⟨head, pieces, heq⟩ :=
          List.exists_cons_of_ne_nil (List.splitOn_ne_nil separator (s ++ [c]))
        obtain ⟨head', pieces', heq'⟩ :=
          List.exists_cons_of_ne_nil (List.splitOn_ne_nil separator s)
        rw [heq, heq', List.map_cons, List.map_cons, List.cons.injEq] at ih
        rw [heq, heq', List.modifyHead_cons, List.modifyHead_cons, List.map_cons, List.map_cons,
          rdropWhile_cons, rdropWhile_cons, ih.1, ih.2]

/-- The pieces of a text have the same trimmed forms as those of the trimmed text. -/
theorem map_trim_splitOn_trim {separator : α} (hseparator : blank separator = false)
    (s : List α) :
    ((trim blank s).splitOn separator).map (trim blank) =
      (s.splitOn separator).map (trim blank) := by
  have hleft : ∀ t : List α, ((t.dropWhile blank).splitOn separator).map (trim blank) =
      (t.splitOn separator).map (trim blank) := by
    intro t
    induction t with
    | nil => rfl
    | cons c t ih =>
        rw [List.dropWhile_cons]
        split
        · next hc =>
            have hne : c ≠ separator := by
              rintro rfl
              simp [hc] at hseparator
            obtain ⟨head, pieces, heq⟩ :=
              List.exists_cons_of_ne_nil (List.splitOn_ne_nil separator t)
            rw [ih, splitOn_cons_of_ne hne, heq, List.modifyHead_cons, List.map_cons,
              List.map_cons, trim_cons hc]
        · rfl
  have hright : ∀ t : List α, ((t.rdropWhile blank).splitOn separator).map (trim blank) =
      (t.splitOn separator).map (trim blank) := by
    have htrim : ∀ pieces : List (List α),
        pieces.map (trim blank) = (pieces.map (List.rdropWhile blank)).map (trim blank) := by
      intro pieces
      rw [List.map_map]
      exact List.map_congr_left fun piece _ => (trim_rdropWhile piece).symm
    intro t
    induction t using List.reverseRecOn with
    | nil => rfl
    | append_singleton t c ih =>
        rw [List.rdropWhile_concat]
        split
        · next hc =>
            rw [ih, htrim, ← map_rdropWhile_splitOn hseparator hc, ← htrim]
        · rfl
  rw [trim, hleft, hright]

end Trim

end Text
