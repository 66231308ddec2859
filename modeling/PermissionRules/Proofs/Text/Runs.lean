/-! Runs of characters at the start of a text. A run ends where a character outside its class follows,
or with the text. -/
namespace PermissionRules.Text
variable {α : Type} {p : α → Bool} {run rest : List α}

theorem takeWhile_run (inside : ∀ a ∈ run, p a = true) (stop : ∀ a ∈ rest.head?, p a = false) :
    (run ++ rest).takeWhile p = run := by
  rw [List.takeWhile_append_of_pos inside]
  cases rest with
  | nil => simp
  | cons a rest => simp [stop a rfl]

theorem dropWhile_run (inside : ∀ a ∈ run, p a = true) (stop : ∀ a ∈ rest.head?, p a = false) :
    (run ++ rest).dropWhile p = rest := by
  rw [List.dropWhile_append_of_pos inside]
  cases rest with
  | nil => rfl
  | cons a rest => simp [stop a rfl]

/-- What is evaluated to be so for each element of a list. -/
theorem forall_mem_of_all {q : α → Prop} [DecidablePred q] {list : List α}
    (held : list.all (fun a => decide (q a)) = true) : ∀ a ∈ list, q a :=
  fun a member => of_decide_eq_true (List.all_eq_true.mp held a member)

/-! ### One more element at the end -/

variable {last mark : α} {text word after : List α}

theorem takeWhile_concat (stop : p last = false) (text : List α) :
    (text ++ [last]).takeWhile p = text.takeWhile p := by
  induction text with
  | nil => simp [stop]
  | cons a text ih => simp only [List.cons_append, List.takeWhile_cons, ih]

theorem dropWhile_concat (stop : p last = false) (text : List α) :
    (text ++ [last]).dropWhile p = text.dropWhile p ++ [last] := by
  induction text with
  | nil => simp [stop]
  | cons a text ih =>
    simp only [List.cons_append, List.dropWhile_cons, ih]
    split <;> rfl

/-- A word that the list begins with ends before an element that is not in the word. -/
theorem eq_append_of_concat (apart : last ∉ word) (same : text ++ [last] = word ++ after) :
    ∃ kept, text = word ++ kept ∧ after = kept ++ [last] := by
  rcases List.append_eq_append_iff.mp same with ⟨tail, rfl, ending⟩ | ⟨kept, rfl, rfl⟩
  · cases tail with
    | nil => exact ⟨[], by simp, by simpa using ending.symm⟩
    | cons a tail =>
      obtain ⟨rfl, _⟩ := List.cons.inj ending
      simp at apart
  · exact ⟨kept, rfl, rfl⟩

theorem eq_cons_of_concat (different : last ≠ mark) (same : text ++ [last] = mark :: after) :
    ∃ kept, text = mark :: kept ∧ after = kept ++ [last] :=
  @eq_append_of_concat _ _ _ [mark] _ (by simpa using different) same

end PermissionRules.Text
