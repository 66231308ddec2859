import PermissionRules.Document.Value

/-! Values by induction on their containers. What holds of every item and of every member's value holds
of the container; well-formedness is of this kind. -/
namespace PermissionRules.Document.Value

@[induction_eliminator]
theorem containers {motive : Value → Prop} (null : motive .null)
    (bool : ∀ b, motive (.bool b)) (integer : ∀ n, motive (.integer n))
    (double : ∀ x, motive (.double x)) (string : ∀ text, motive (.string text))
    (array : ∀ items, (∀ item ∈ items, motive item) → motive (.array items))
    (object : ∀ members : List (String × Value), (∀ member ∈ members, motive member.2) →
      motive (.object members))
    (value : Value) : motive value := by
  refine Value.rec (motive_1 := motive) (motive_2 := fun items => ∀ item ∈ items, motive item)
    (motive_3 := fun members => ∀ member ∈ members, motive member.2)
    (motive_4 := fun member => motive member.2)
    null bool integer double string array object nofun ?_ nofun ?_ (fun _ _ held => held) value
  · intro item rest head tail other member
    rcases List.mem_cons.mp member with rfl | member
    · exact head
    · exact tail other member
  · intro entry rest head tail other member
    rcases List.mem_cons.mp member with rfl | member
    · exact head
    · exact tail other member

theorem itemsWellFormed_iff {items : List Value} :
    ItemsWellFormed items ↔ ∀ item ∈ items, item.WellFormed := by
  induction items with
  | nil => simp [ItemsWellFormed]
  | cons item rest ih => simp [ItemsWellFormed, ih]

theorem membersWellFormed_iff {members : List (String × Value)} :
    MembersWellFormed members ↔ ∀ member ∈ members, member.2.WellFormed := by
  induction members with
  | nil => simp [MembersWellFormed]
  | cons member rest ih =>
    obtain ⟨key, value⟩ := member
    simp [MembersWellFormed, ih]

theorem wellFormed_array {items : List Value} :
    (array items).WellFormed ↔ ∀ item ∈ items, item.WellFormed :=
  itemsWellFormed_iff

theorem wellFormed_object {members : List (String × Value)} :
    (object members).WellFormed ↔
      (Ordered.keys members).Nodup ∧ ∀ member ∈ members, member.2.WellFormed :=
  and_congr_right fun _ => membersWellFormed_iff

end PermissionRules.Document.Value
