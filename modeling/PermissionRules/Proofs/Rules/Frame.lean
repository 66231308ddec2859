import PermissionRules.Proofs.Rules.Repaired

/-! What a repair does not touch. Putting entries into a map changes it at their keys alone, and a repair
does nothing else to the document than to put the lists into its permissions and these into its root. -/
namespace PermissionRules

namespace Ordered
variable {κ α : Type} [DecidableEq κ]

/-- Two maps that differ at the touched keys alone: every other key has the same value in both, the keys
of the first keep their places in the second, and the touched keys that it did not have stand behind
them. -/
structure Framed (touched : List κ) (before after : Ordered κ α) : Prop where
  keys : after.keys = before.keys ++ touched.filter (· ∉ before.keys)
  kept : ∀ key, key ∉ touched → after.get? key = before.get? key
  distinct : before.keys.Nodup → after.keys.Nodup

theorem framed_putAll (map : Ordered κ α) {entries : List (κ × α)}
    (distinct : (Ordered.keys entries).Nodup) :
    Framed (Ordered.keys entries) map (map.putAll entries) where
  keys := keys_putAll map distinct
  kept _ other := get?_putAll_of_not_mem map other
  distinct held := nodup_keys_putAll held entries

theorem framed_put (map : Ordered κ α) (key : κ) (value : α) :
    Framed [key] map (map.put key value) := by
  have single : (Ordered.keys [(key, value)]).Nodup := by simp [Ordered.keys]
  rw [put_eq_putAll]
  exact framed_putAll map single

end Ordered

namespace Rules
open Document

theorem framed_repairedPermissions (lists : Lists) (permissions : Ordered String Value) :
    Ordered.Framed ["allow", "ask", "deny"] permissions (repairedPermissions lists permissions) :=
  Ordered.framed_putAll permissions (nodup_keys_repairedLists lists)

/-- A repair touches nothing but the permissions of the root, and of these nothing but the three lists.
Permissions that are missing or no object are replaced by the lists alone, in the same place. -/
theorem repair_frame (document : Value) :
    ∃ members permissions, (repair document).document = .object members ∧
      Ordered.get? members permissionsKey = some (.object permissions) ∧
      (∀ before, document = .object before →
        Ordered.Framed [permissionsKey] before members) ∧
      ((∀ before, document ≠ .object before) → Ordered.keys members = [permissionsKey]) ∧
      (∀ before, document.get? permissionsKey = some (.object before) →
        Ordered.Framed ["allow", "ask", "deny"] before permissions) ∧
      ((∀ before, document.get? permissionsKey ≠ some (.object before)) →
        Ordered.keys permissions = ["allow", "ask", "deny"]) := by
  refine ⟨_, permissionsAfter document, rfl, get?_repairedDocument document, ?_, ?_, ?_, ?_⟩
  · rintro before rfl
    exact Ordered.framed_put before _ _
  · intro other
    have root : document.object? = none := by
      cases document with
      | object members => exact absurd rfl (other members)
      | _ => rfl
    rw [root]
    rfl
  · intro before held
    unfold permissionsAfter
    rw [held]
    exact framed_repairedPermissions _ before
  · intro other
    have missing : (document.get? permissionsKey).bind Value.object? = none := by
      cases held : document.get? permissionsKey with
      | none => rfl
      | some value =>
        cases value with
        | object before => exact absurd held (other before)
        | _ => rfl
    unfold permissionsAfter
    rw [missing]
    rfl

-- A list that is no array keeps its place, and the missing lists follow behind the other members.
example : repairedDocument (.object [("theme", .null),
      ("permissions", .object [("deny", .null), ("mode", .bool true)]), ("hooks", .array [])]) =
    .object [("theme", .null),
      ("permissions", .object [("deny", .array []), ("mode", .bool true), ("allow", .array []),
        ("ask", .array [])]),
      ("hooks", .array [])] := by
  decide

end Rules
end PermissionRules
