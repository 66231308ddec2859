import PermissionRules.Proofs.Document.Value
import PermissionRules.Proofs.Ordered
import PermissionRules.Proofs.Rules.Agreement

/-! What a repair leaves behind. Whatever the shape of the document was, the repaired one has the three
lists, their entries are the survivors of the old lists, and survivors have no issues. -/
namespace PermissionRules.Rules
open Document

theorem mem_all (category : Category) : category ∈ Category.all := by
  cases category <;> decide

theorem mem_entries {lists : Lists} {category : Category} {entry : Value} :
    (category, entry) ∈ lists.entries ↔ entry ∈ lists.get category := by
  unfold Lists.entries
  simp only [List.mem_flatMap, List.mem_map, Prod.mk.injEq]
  constructor
  · rintro ⟨_, _, _, member, rfl, rfl⟩
    exact member
  · intro member
    exact ⟨category, mem_all category, entry, member, rfl, rfl⟩

theorem issues_eq_nil {document : Value} : issues document = [] ↔
    ∀ category, ∀ entry ∈ (Lists.ofDocument document).get category,
      issue? category entry = none := by
  unfold issues
  rw [List.filterMap_eq_nil_iff]
  constructor
  · intro clean category entry member
    exact clean (category, entry) (mem_entries.mpr member)
  · rintro clean ⟨category, entry⟩ member
    exact clean category entry (mem_entries.mp member)

theorem survivor?_isValid {entry : Value} {pattern : String}
    (survives : (Verdict.ofEntry entry).survivor? = some pattern) :
    Pattern.isValid pattern = true := by
  have judged := judged_ofEntry entry
  generalize Verdict.ofEntry entry = verdict at judged survives
  cases judged with
  | keep valid =>
    obtain rfl := Option.some.inj survives
    rw [Pattern.isValid, valid]
    rfl
  | migrate old rewritten =>
    obtain rfl := Option.some.inj survives
    exact Pattern.isValid_of_migrate? rewritten
  | refuse | notText => contradiction

theorem mem_survivors {entries : List Value} {entry : Value} (member : entry ∈ survivors entries) :
    ∃ pattern, entry = .string pattern ∧ Pattern.isValid pattern = true := by
  obtain ⟨old, _, survives⟩ := List.mem_filterMap.mp member
  obtain ⟨pattern, survivor, rfl⟩ := Option.map_eq_some_iff.mp survives
  exact ⟨pattern, rfl, survivor?_isValid survivor⟩

/-- The repaired lists under their keys. -/
def repairedLists (lists : Lists) : List (String × Value) :=
  Category.all.map fun category => (category.key, .array (survivors (lists.get category)))

theorem repairedPermissions_eq_putAll (lists : Lists) (permissions : Ordered String Value) :
    repairedPermissions lists permissions = permissions.putAll (repairedLists lists) :=
  rfl

theorem keys_repairedLists (lists : Lists) :
    Ordered.keys (repairedLists lists) = ["allow", "ask", "deny"] :=
  rfl

theorem nodup_keys_repairedLists (lists : Lists) : (Ordered.keys (repairedLists lists)).Nodup := by
  rw [keys_repairedLists]
  decide

theorem mem_repairedLists (lists : Lists) (category : Category) :
    (category.key, .array (survivors (lists.get category))) ∈ repairedLists lists :=
  List.mem_map.mpr ⟨category, mem_all category, rfl⟩

theorem get?_repairedPermissions (lists : Lists) (permissions : Ordered String Value)
    (category : Category) : (repairedPermissions lists permissions).get? category.key =
      some (.array (survivors (lists.get category))) := by
  rw [repairedPermissions_eq_putAll]
  exact Ordered.get?_putAll _ (nodup_keys_repairedLists lists) (mem_repairedLists lists category)

/-- The permissions of the repaired document. -/
def permissionsAfter (document : Value) : Ordered String Value :=
  repairedPermissions (.ofDocument document)
    (((document.get? permissionsKey).bind Value.object?).getD [])

theorem get?_repairedDocument (document : Value) :
    (repairedDocument document).get? permissionsKey = some (.object (permissionsAfter document)) :=
  Ordered.get?_put_self _ _ _

theorem get_ofDocument (document : Value) (category : Category) :
    (Lists.ofDocument document).get category = Lists.read document category := by
  cases category <;> rfl

/-- A list that is read from an array of the permissions is that array. -/
theorem read_of_get? {document : Value} {permissions : Ordered String Value} {category : Category}
    {entries : List Value} (held : document.get? permissionsKey = some (.object permissions))
    (list : permissions.get? category.key = some (.array entries)) :
    Lists.read document category = entries := by
  have inside : (Value.object permissions).get? category.key = some (.array entries) := list
  rw [Lists.read, held, Option.bind_some, inside]
  rfl

/-- The lists of the repaired document are the survivors of those of the old one. -/
theorem read_repairedDocument (document : Value) (category : Category) :
    Lists.read (repairedDocument document) category =
      survivors ((Lists.ofDocument document).get category) :=
  read_of_get? (get?_repairedDocument document) (get?_repairedPermissions _ _ category)

theorem issue?_of_isValid (category : Category) {pattern : String}
    (valid : Pattern.isValid pattern = true) : issue? category (.string pattern) = none := by
  rw [Pattern.isValid, Option.isNone_iff_eq_none] at valid
  simp only [issue?, Value.string?, valid, Option.map_none]

theorem issues_repairedDocument (document : Value) : issues (repairedDocument document) = [] := by
  refine issues_eq_nil.mpr fun category entry member => ?_
  rw [get_ofDocument, read_repairedDocument] at member
  obtain ⟨pattern, rfl, valid⟩ := mem_survivors member
  exact issue?_of_isValid category valid

theorem isClean_repairedDocument (document : Value) : isClean (repairedDocument document) = true := by
  rw [isClean, issues_repairedDocument]
  rfl

theorem hasChanges_repairedDocument (document : Value) :
    (repair (repairedDocument document)).hasChanges = false := by
  have clean := isClean_repairedDocument document
  rw [← Bool.not_eq_true, hasChanges_iff, clean]
  decide

/-- A repaired document is an object with an object of permissions, in which each category has a list
of valid patterns, and it has no issues. -/
theorem repairedDocument_normal (document : Value) :
    ∃ members permissions, repairedDocument document = .object members ∧
      Ordered.get? members permissionsKey = some (.object permissions) ∧
      (∀ category : Category, ∃ entries,
        Ordered.get? permissions category.key = some (.array entries) ∧
        ∀ entry ∈ entries, ∃ pattern, entry = .string pattern ∧ Pattern.isValid pattern = true) ∧
      issues (repairedDocument document) = [] := by
  refine ⟨_, permissionsAfter document, rfl, get?_repairedDocument document, fun category => ?_,
    issues_repairedDocument document⟩
  exact ⟨_, get?_repairedPermissions _ _ category, fun entry member => mem_survivors member⟩

theorem wellFormed_survivors (entries : List Value) : (Value.array (survivors entries)).WellFormed := by
  refine Value.wellFormed_array.mpr fun entry member => ?_
  obtain ⟨pattern, rfl, _⟩ := mem_survivors member
  trivial

/-- Well-formed members that are put into a well-formed object keep it well-formed. -/
theorem wellFormed_putAll {members : Ordered String Value}
    (members' : (Value.object members).WellFormed) {entries : List (String × Value)}
    (entries' : ∀ entry ∈ entries, entry.2.WellFormed) :
    (Value.object (members.putAll entries)).WellFormed := by
  obtain ⟨distinct, members'⟩ := Value.wellFormed_object.mp members'
  refine Value.wellFormed_object.mpr ⟨Ordered.nodup_keys_putAll distinct entries, ?_⟩
  intro member inside
  rcases Ordered.mem_putAll inside with inside | inside
  · exact members' member inside
  · exact entries' member inside

theorem wellFormed_put {members : Ordered String Value} (members' : (Value.object members).WellFormed)
    (key : String) {value : Value} (value' : value.WellFormed) :
    (Value.object (members.put key value)).WellFormed := by
  rw [Ordered.put_eq_putAll]
  refine wellFormed_putAll members' fun entry member => ?_
  obtain rfl := List.mem_singleton.mp member
  exact value'

theorem wellFormed_repairedLists (lists : Lists) :
    ∀ entry ∈ repairedLists lists, entry.2.WellFormed := by
  intro entry member
  obtain ⟨category, _, rfl⟩ := List.mem_map.mp member
  exact wellFormed_survivors _

theorem wellFormed_object? {value : Value} (wellFormed : value.WellFormed) :
    (Value.object (value.object?.getD [])).WellFormed := by
  cases value with
  | object members => exact wellFormed
  | _ => exact Value.wellFormed_object.mpr ⟨List.nodup_nil, nofun⟩

theorem wellFormed_get? {value held : Value} {key : String} (wellFormed : value.WellFormed)
    (found : value.get? key = some held) : held.WellFormed := by
  obtain ⟨members, object, found⟩ := Option.bind_eq_some_iff.mp found
  cases value with
  | object members' =>
    cases object
    exact (Value.wellFormed_object.mp wellFormed).2 _ (Ordered.mem_of_get? found)
  | _ => contradiction

/-- A repair keeps a document well-formed. -/
theorem repairedDocument_wellFormed {document : Value} (wellFormed : document.WellFormed) :
    (repairedDocument document).WellFormed := by
  have permissions : (Value.object
      (((document.get? permissionsKey).bind Value.object?).getD [])).WellFormed := by
    cases found : document.get? permissionsKey with
    | none => exact Value.wellFormed_object.mpr ⟨List.nodup_nil, nofun⟩
    | some held => exact wellFormed_object? (wellFormed_get? wellFormed found)
  refine wellFormed_put (wellFormed_object? wellFormed) permissionsKey ?_
  exact wellFormed_putAll permissions (wellFormed_repairedLists _)

end PermissionRules.Rules
