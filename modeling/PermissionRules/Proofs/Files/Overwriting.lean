import PermissionRules.Files.Store
import PermissionRules.Proofs.Ordered

/-! Files that are written over. The new content is seen at the location of the file and nowhere else,
and every path leads where it led before. -/
namespace PermissionRules.Files.Store

theorem node?_put_self (store : Store) {location : Location} (inside : location ≠ []) (node : Node) :
    (store.put location node).node? location = some node := by
  simp [node?, put, inside]

theorem node?_put_of_ne (store : Store) {location other : Location} (node : Node)
    (different : location ≠ other) :
    (store.put location node).node? other = store.node? other := by
  simp only [node?, put, Ordered.get?_put_of_ne _ _ different]

/-- A store after nodes are put into it one after the other. -/
def putAll (store : Store) (entries : List (Location × Node)) : Store :=
  { store with nodes := store.nodes.putAll entries }

theorem node?_putAll_of_not_mem (store : Store) {entries : List (Location × Node)}
    {location : Location} (other : location ∉ Ordered.keys entries) :
    (store.putAll entries).node? location = store.node? location := by
  simp only [node?, putAll, Ordered.get?_putAll_of_not_mem _ other]

theorem node?_putAll_of_consistent (store : Store) {entries : List (Location × Node)}
    (consistent : Ordered.Consistent entries) {entry : Location × Node} (member : entry ∈ entries)
    (inside : entry.1 ≠ []) : (store.putAll entries).node? entry.1 = some entry.2 := by
  simp [node?, putAll, inside, Ordered.get?_putAll_of_consistent _ consistent member]

/-- Files may have another content, and everything else is the same. -/
structure SameTree (store now : Store) : Prop where
  workingDirectory : now.workingDirectory = store.workingDirectory
  nodes : ∀ location, now.node? location = store.node? location ∨
    ∃ old new, store.node? location = some (.file old) ∧ now.node? location = some (.file new)

variable {store now : Store} {location : Location} {old : ByteArray} {path : Path}

theorem SameTree.refl (store : Store) : store.SameTree store :=
  ⟨rfl, fun _ => .inl rfl⟩

theorem ne_nil_of_file (file : store.node? location = some (.file old)) : location ≠ [] := by
  rintro rfl
  exact absurd file (by simp [node?])

/-- The place of a file is one of the places that the store holds. -/
theorem mem_keys_of_file (file : store.node? location = some (.file old)) :
    location ∈ store.nodes.keys := by
  have inside := ne_nil_of_file file
  rw [node?, if_neg (by simpa using inside)] at file
  exact Ordered.mem_keys_of_get? file

theorem SameTree.isFile (same : SameTree store now) (file : store.node? location = some (.file old)) :
    ∃ held, now.node? location = some (.file held) := by
  rcases same.nodes location with equal | ⟨_, new, _, after⟩
  · exact ⟨old, equal.trans file⟩
  · exact ⟨new, after⟩

/-- A file that is written over once more. -/
theorem SameTree.put (same : SameTree store now) (file : store.node? location = some (.file old))
    (new : ByteArray) : SameTree store (now.put location (.file new)) := by
  refine ⟨same.workingDirectory, fun other => ?_⟩
  by_cases equal : location = other
  · subst other
    exact .inr ⟨old, new, file, node?_put_self now (ne_nil_of_file file) _⟩
  · rw [node?_put_of_ne _ _ equal]
    exact same.nodes other

theorem SameTree.enter (same : SameTree store now) (directory : Location) (name : Name) :
    now.enter directory name = store.enter directory name := by
  unfold Store.enter
  rcases same.nodes (name :: directory) with equal | ⟨_, _, before, after⟩
  · rw [equal]
  · rw [before, after]

theorem SameTree.follow (same : SameTree store now) (location : Location) (names : List Name) :
    now.follow location names = store.follow location names := by
  induction names generalizing location with
  | nil => rfl
  | cons name names ih =>
    rw [Store.follow, Store.follow]
    rcases same.nodes location with equal | ⟨_, _, before, after⟩
    · simp only [equal, same.enter, ih]
    · rw [before, after]

/-- Contents have no part in where a path leads. -/
theorem SameTree.locate (same : SameTree store now) (path : Path) :
    now.locate path = store.locate path := by
  unfold Store.locate startOf
  rw [same.workingDirectory]
  split
  · rfl
  · exact same.follow _ _

theorem SameTree.exists? (same : SameTree store now) (path : Path) :
    now.exists? path = store.exists? path := by
  unfold Store.exists?
  rw [same.locate]

theorem read_eq_ok {content : ByteArray} : store.read path = .ok content ↔
    ∃ location, store.locate path = .ok location ∧ store.node? location = some (.file content) := by
  unfold read
  cases store.locate path with
  | error fault => simp
  | ok location =>
    cases found : store.node? location with
    | none => simp [found]
    | some node => cases node <;> simp [found]

/-- A path shows what it showed unless its own file was written over. -/
theorem SameTree.read (same : SameTree store now)
    (unchanged : ∀ location, store.locate path = .ok location →
      now.node? location = store.node? location) : now.read path = store.read path := by
  unfold Store.read
  rw [same.locate]
  cases leads : store.locate path with
  | error fault => rfl
  | ok location => simp only [unchanged location leads]

/-- A file that is there is saved at its location. -/
theorem save_of_file (leads : store.locate path = .ok location)
    (file : store.node? location = some (.file old)) (new : ByteArray) :
    store.save path new = (.ok (), store.put location (.file new)) := by
  have parent : store.ensureParent path = (.ok (), store) := by
    simp only [ensureParent, leads]
  have written : store.write path new = .ok (store.put location (.file new)) := by
    simp only [write, leads, file]
  simp only [save, parent, written]

end PermissionRules.Files.Store
