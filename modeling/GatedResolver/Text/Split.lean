/-!
# Cutting a list at a separator

The parts between separators, empty ones included: `n` separators make `n + 1` parts.
-/

namespace GatedResolver.Text

variable {α : Type} [DecidableEq α]

/-- Cut a list, where `part` is the current part and `done` the parts before it, both with
the latest first. -/
def splitOnto (separator : α) (part : List α) (done : List (List α)) : List α → List (List α)
  | [] => (part.reverse :: done).reverse
  | item :: rest =>
    if item = separator then splitOnto separator [] (part.reverse :: done) rest
    else splitOnto separator (item :: part) done rest

/-- The parts of a list between separators. -/
def split (separator : α) (items : List α) : List (List α) :=
  splitOnto separator [] [] items

/-- The parts that are done stay in front, and the current part goes to the next one. -/
theorem splitOnto_eq (separator : α) (part : List α) (done : List (List α)) (items : List α) :
    splitOnto separator part done items =
      done.reverse ++ (split separator items).modifyHead (part.reverse ++ ·) := by
  unfold split
  induction items generalizing part done with
  | nil => simp [splitOnto]
  | cons item rest inductionHypothesis =>
    by_cases same : item = separator
    · simp only [splitOnto, if_pos same]
      rw [inductionHypothesis, inductionHypothesis [] [[].reverse]]
      simp
    · simp only [splitOnto, if_neg same]
      rw [inductionHypothesis, inductionHypothesis [item] []]
      simp [List.modifyHead_modifyHead, Function.comp_def]

@[simp] theorem split_nil (separator : α) : split separator [] = [[]] :=
  rfl

/-- A separator begins a part, and any other item goes to the part that it stands before. -/
theorem split_cons (separator item : α) (rest : List α) :
    split separator (item :: rest) =
      if item = separator then [] :: split separator rest
      else (split separator rest).modifyHead (item :: ·) := by
  unfold split
  by_cases same : item = separator
  · simp only [splitOnto, if_pos same]
    rw [splitOnto_eq]
    change _ = [] :: split separator rest
    cases split separator rest <;> rfl
  · simp only [splitOnto, if_neg same]
    rw [splitOnto_eq]
    simp [split]

theorem split_ne_nil (separator : α) (items : List α) : split separator items ≠ [] := by
  induction items with
  | nil => simp
  | cons item rest inductionHypothesis =>
    rw [split_cons]
    split
    · simp
    · simpa using inductionHypothesis

/-- A list without the separator is one part. -/
theorem split_of_notMem {separator : α} {items : List α} (absent : separator ∉ items) :
    split separator items = [items] := by
  induction items with
  | nil => rfl
  | cons item rest inductionHypothesis =>
    obtain ⟨different, later⟩ := not_or.mp (mt List.mem_cons.mpr absent)
    rw [split_cons, if_neg (Ne.symm different), inductionHypothesis later]
    rfl

/-- The parts before a separator come before those behind it. -/
theorem split_append (separator : α) (front back : List α) :
    split separator (front ++ separator :: back) =
      split separator front ++ split separator back := by
  induction front with
  | nil => rw [List.nil_append, split_cons, if_pos rfl, split_nil, List.singleton_append]
  | cons item rest inductionHypothesis =>
    rw [List.cons_append, split_cons, split_cons, inductionHypothesis]
    obtain ⟨first, others, parts⟩ := List.exists_cons_of_ne_nil (split_ne_nil separator rest)
    rw [parts]
    split <;> rfl

/-- The parts with separators between them are the list. -/
theorem intercalate_split (separator : α) (items : List α) :
    [separator].intercalate (split separator items) = items := by
  induction items with
  | nil => rfl
  | cons item rest inductionHypothesis =>
    rw [split_cons]
    obtain ⟨first, others, parts⟩ := List.exists_cons_of_ne_nil (split_ne_nil separator rest)
    rw [parts] at inductionHypothesis ⊢
    by_cases same : item = separator
    · rw [if_pos same, List.intercalate_cons_cons, inductionHypothesis, same]
      rfl
    · cases others with
      | nil => simp_all
      | cons second behind => simp_all [List.intercalate_cons_cons]

/-- No part holds the separator. -/
theorem notMem_of_mem_split {separator : α} {items part : List α}
    (member : part ∈ split separator items) : separator ∉ part := by
  induction items generalizing part with
  | nil =>
    obtain rfl := List.mem_singleton.mp member
    exact List.not_mem_nil
  | cons item rest inductionHypothesis =>
    rw [split_cons] at member
    split at member
    · rcases List.mem_cons.mp member with rfl | later
      · exact List.not_mem_nil
      · exact inductionHypothesis later
    · next different =>
      obtain ⟨first, others, parts⟩ := List.exists_cons_of_ne_nil (split_ne_nil separator rest)
      rw [parts] at member inductionHypothesis
      rcases List.mem_cons.mp member with rfl | later
      · rw [List.mem_cons, not_or]
        exact ⟨Ne.symm different, inductionHypothesis (.head _)⟩
      · exact inductionHypothesis (.tail _ later)

/-- Parts without the separator, joined by it, are cut where they were joined. -/
theorem split_intercalate {separator : α} {parts : List (List α)} (present : parts ≠ [])
    (apart : ∀ part ∈ parts, separator ∉ part) :
    split separator ([separator].intercalate parts) = parts := by
  induction parts with
  | nil => exact absurd rfl present
  | cons part rest inductionHypothesis =>
    have alone : split separator part = [part] := split_of_notMem (apart part (.head _))
    cases rest with
    | nil => simpa using alone
    | cons second others =>
      have behind := inductionHypothesis (by simp) fun other member => apart other (.tail _ member)
      rw [List.intercalate_cons_cons, List.append_assoc, List.singleton_append, split_append, alone,
        behind]
      rfl

end GatedResolver.Text
