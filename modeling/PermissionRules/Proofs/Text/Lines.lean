import Mathlib.Data.List.Infix

/-! Lines of a text. A text is split at each line feed; what is put before it goes before its first line, and
a line feed between two texts keeps their lines apart. -/
namespace PermissionRules.Text

/-- A text split at each line feed. -/
def linesOf (text : String) : List String :=
  (text.toList.splitOn '\n').map .ofList

def firstLine (text : String) : String :=
  (linesOf text).headD ""

def laterLines (text : String) : List String :=
  (linesOf text).tail

/-- The lines that begin with a mark. -/
def marked (mark : String) (lines : List String) : List String :=
  lines.filter fun line => mark.toList <+: line.toList

theorem unbroken_append {text other : String} (unbroken : '\n' ∉ text.toList)
    (unbroken' : '\n' ∉ other.toList) : '\n' ∉ (text ++ other).toList := by
  rw [String.toList_append, List.mem_append, not_or]
  exact ⟨unbroken, unbroken'⟩

theorem linesOf_of_not_mem {text : String} (unbroken : '\n' ∉ text.toList) : linesOf text = [text] := by
  rw [linesOf, List.splitOn_eq_singleton unbroken, List.map_singleton, String.ofList_toList]

theorem linesOf_lineFeed (line rest : String) :
    linesOf (line ++ "\n" ++ rest) = linesOf line ++ linesOf rest := by
  have split : (line ++ "\n" ++ rest).toList = line.toList ++ '\n' :: rest.toList := by
    rw [String.append_assoc, String.toList_append, String.toList_append]
    rfl
  rw [linesOf, split, List.splitOn_append_cons_self, List.map_append, ← linesOf, ← linesOf]

/-- Texts with a line feed behind each of them have the lines of the texts, and an empty line behind the last. -/
theorem linesOf_join (texts : List String) :
    linesOf (String.join (texts.map (· ++ "\n"))) = texts.flatMap linesOf ++ [""] := by
  induction texts with
  | nil => rfl
  | cons text texts ih =>
    rw [List.map_cons, String.join_cons, linesOf_lineFeed, ih, List.flatMap_cons, List.append_assoc]

theorem linesOf_eq_cons (text : String) : linesOf text = firstLine text :: laterLines text := by
  have filled : linesOf text ≠ [] := by
    rw [linesOf, ne_eq, List.map_eq_nil_iff]
    exact List.splitOn_ne_nil _ _
  obtain ⟨first, later, lines⟩ := List.exists_cons_of_ne_nil filled
  rw [firstLine, laterLines, lines, List.headD_cons, List.tail_cons]

theorem splitOn_append {α : Type} [DecidableEq α] {stop : α} {start : List α} (absent : stop ∉ start)
    (rest : List α) : (start ++ rest).splitOn stop = (rest.splitOn stop).modifyHead (start ++ ·) := by
  induction start with
  | nil => exact (List.modifyHead_id).symm ▸ rfl
  | cons a start ih =>
    rw [List.mem_cons, not_or] at absent
    rw [List.cons_append, List.splitOn_cons_eq_if_modifyHead, if_neg (by simpa using Ne.symm absent.1),
      ih absent.2, List.modifyHead_modifyHead]
    rfl

/-- What is put before a text goes before its first line. -/
theorem linesOf_append {start : String} (unbroken : '\n' ∉ start.toList) (text : String) :
    linesOf (start ++ text) = (start ++ firstLine text) :: laterLines text := by
  have lines := linesOf_eq_cons text
  rw [linesOf] at lines ⊢
  rw [String.toList_append, splitOn_append unbroken]
  obtain ⟨first, later, split⟩ := List.exists_cons_of_ne_nil (List.splitOn_ne_nil '\n' text.toList)
  rw [split, List.map_cons] at lines
  obtain ⟨first', later'⟩ := List.cons.inj lines
  rw [split, List.modifyHead_cons, List.map_cons, later', ← first', String.ofList_append,
    String.ofList_toList]

theorem laterLines_of_not_mem {text : String} (unbroken : '\n' ∉ text.toList) : laterLines text = [] := by
  rw [laterLines, linesOf_of_not_mem unbroken, List.tail_cons]

theorem firstLine_of_not_mem {text : String} (unbroken : '\n' ∉ text.toList) : firstLine text = text := by
  rw [firstLine, linesOf_of_not_mem unbroken, List.headD_cons]

theorem subset_of_mem_splitOn {α : Type} [DecidableEq α] {stop : α} {text piece : List α}
    (member : piece ∈ text.splitOn stop) : piece ⊆ text := by
  induction text generalizing piece with
  | nil => exact List.eq_of_mem_singleton member ▸ List.Subset.refl _
  | cons a text ih =>
    obtain ⟨first, later, split⟩ := List.exists_cons_of_ne_nil (List.splitOn_ne_nil stop text)
    rw [List.splitOn_cons_eq_if_modifyHead] at member
    split at member
    · rcases List.mem_cons.mp member with rfl | member
      · exact List.nil_subset _
      · exact List.subset_cons_of_subset a (ih member)
    · rw [split] at member ih
      rcases List.mem_cons.mp member with rfl | member
      · exact List.cons_subset_cons a (ih List.mem_cons_self)
      · exact List.subset_cons_of_subset a (ih (List.mem_cons_of_mem _ member))

theorem subset_of_mem_laterLines {text line : String} (member : line ∈ laterLines text) :
    line.toList ⊆ text.toList := by
  obtain ⟨piece, found, rfl⟩ := List.mem_map.mp (List.mem_of_mem_tail member)
  rw [String.toList_ofList]
  exact subset_of_mem_splitOn found

theorem marked_append (mark : String) (lines others : List String) :
    marked mark (lines ++ others) = marked mark lines ++ marked mark others :=
  List.filter_append _ _

/-! ### Lines of many texts

Some of the texts have a first line that is looked for, and each of them may have more such lines. -/

section
variable {α β : Type} {keep : α → Bool} {first : α → β} {more : α → List β} {list : List α}

theorem length_flatMap_parts (list : List α) :
    (list.flatMap fun a => (if keep a then [first a] else []) ++ more a).length =
      (list.filter keep).length + (list.flatMap more).length := by
  induction list with
  | nil => rfl
  | cons a list ih =>
    rw [List.flatMap_cons, List.flatMap_cons, List.length_append, List.length_append, List.length_append, ih,
      List.filter_cons]
    split
    · rw [List.length_singleton, List.length_cons]
      omega
    · rw [List.length_nil]
      omega

theorem flatMap_parts (none : ∀ a ∈ list, more a = []) :
    (list.flatMap fun a => (if keep a then [first a] else []) ++ more a) = (list.filter keep).map first := by
  induction list with
  | nil => rfl
  | cons a list ih =>
    obtain ⟨none, others⟩ := List.forall_mem_cons.mp none
    rw [List.flatMap_cons, ih others, none, List.append_nil, List.filter_cons]
    split
    · rfl
    · rfl

/-- The lines that are looked for are as many as the texts with a first line only if there are no more. -/
theorem length_flatMap_parts_eq_iff :
    (list.flatMap fun a => (if keep a then [first a] else []) ++ more a).length = (list.filter keep).length ↔
      ∀ a ∈ list, more a = [] := by
  rw [length_flatMap_parts, Nat.add_eq_left, List.length_eq_zero_iff, List.flatMap_eq_nil_iff]

end

end PermissionRules.Text
