import PermissionRules.Proofs.Ordered
import Mathlib.Data.List.Basic
import Mathlib.Data.List.Induction

/-! What a map keeps of entries with repeated keys. The first entry under a key gives the key its place and the
last one its value; both together say what is kept, and the map of the entries is the only one that does. -/
namespace PermissionRules.Ordered
variable {κ α : Type}

/-- The last entry under a key has this value. -/
def LastUnder (written : List (κ × α)) (key : κ) (value : α) : Prop :=
  ∃ before after, written = before ++ (key, value) :: after ∧ key ∉ keys after

theorem mem_keys_cons {key : κ} {value : α} {before after : List (κ × α)} :
    key ∈ keys (before ++ (key, value) :: after) :=
  List.mem_map_of_mem (List.mem_append_right before List.mem_cons_self)

theorem LastUnder.mem_keys {written : List (κ × α)} {key : κ} {value : α} (last : LastUnder written key value) :
    key ∈ keys written := by
  obtain ⟨before, after, rfl, _⟩ := last
  exact mem_keys_cons

theorem LastUnder.eq {written : List (κ × α)} {key : κ} {value value' : α} (last : LastUnder written key value)
    (last' : LastUnder written key value') : value = value' := by
  -- Neither of the two entries stands behind the other.
  have same : ∀ {tail after after' : List (κ × α)} {value value' : α},
      (key, value) :: after = tail ++ (key, value') :: after' → key ∉ keys after → value = value' := by
    intro tail after after' value value' equal absent
    cases tail with
    | nil => exact (Prod.mk.inj (List.cons.inj equal).1).2
    | cons entry tail => exact absurd ((List.cons.inj equal).2 ▸ mem_keys_cons) absent
  obtain ⟨before, after, rfl, absent⟩ := last
  obtain ⟨before', after', equal, absent'⟩ := last'
  rcases List.append_eq_append_iff.mp equal with ⟨tail, _, ending⟩ | ⟨tail, _, ending⟩
  · exact same ending absent
  · exact (same ending absent').symm

theorem lastUnder_concat_self (written : List (κ × α)) (key : κ) (value : α) :
    LastUnder (written ++ [(key, value)]) key value :=
  ⟨written, [], rfl, List.not_mem_nil⟩

theorem LastUnder.concat {written : List (κ × α)} {key other : κ} {value : α}
    (last : LastUnder written key value) (different : key ≠ other) (value' : α) :
    LastUnder (written ++ [(other, value')]) key value := by
  obtain ⟨before, after, rfl, absent⟩ := last
  refine ⟨before, after ++ [(other, value')], by simp, ?_⟩
  simp only [keys, List.map_append, List.map_cons, List.map_nil, List.mem_append, List.mem_singleton, not_or]
  exact ⟨absent, different⟩

variable [DecidableEq κ]

/-- What is kept of entries written one after the other: each key once, in the order of the first entries under
the keys and with the values of the last. -/
structure Kept (written kept : List (κ × α)) : Prop where
  every : ∀ key ∈ keys written, key ∈ keys kept
  order : (keys kept).Pairwise fun one other => (keys written).idxOf one < (keys written).idxOf other
  last : ∀ entry ∈ kept, LastUnder written entry.1 entry.2

variable {written kept kept' : List (κ × α)}

namespace Kept

theorem mem_keys_iff (holds : Kept written kept) (key : κ) : key ∈ keys kept ↔ key ∈ keys written := by
  constructor
  · intro member
    obtain ⟨entry, inside, rfl⟩ := List.mem_map.mp member
    exact (holds.last entry inside).mem_keys
  · exact holds.every key

theorem nodup (holds : Kept written kept) : (keys kept).Nodup :=
  holds.order.imp fun before => by
    rintro rfl
    exact Nat.lt_irrefl _ before

/-- One more entry is put over the one that is kept under its key, or goes to the end. -/
theorem put (holds : Kept written kept) (key : κ) (value : α) :
    Kept (written ++ [(key, value)]) (Ordered.put kept key value) := by
  have written' : keys (written ++ [(key, value)]) = keys written ++ [key] := List.map_append
  have places : (keys kept).Pairwise fun one other =>
      (keys written ++ [key]).idxOf one < (keys written ++ [key]).idxOf other := by
    refine holds.order.imp_of_mem fun {one other} one' other' before => ?_
    rw [List.idxOf_append_of_mem ((holds.mem_keys_iff one).mp one'),
      List.idxOf_append_of_mem ((holds.mem_keys_iff other).mp other')]
    exact before
  refine ⟨?_, ?_, ?_⟩
  · intro other member
    rw [written', List.mem_append, List.mem_singleton] at member
    rw [keys_put]
    split
    case isTrue held =>
      rcases member with member | rfl
      · exact holds.every other member
      · exact held
    case isFalse =>
      rcases member with member | rfl
      · exact List.mem_append_left _ (holds.every other member)
      · exact List.mem_append_right _ (List.mem_singleton_self other)
  · rw [written', keys_put]
    split
    case isTrue => exact places
    case isFalse fresh =>
      refine List.pairwise_append.mpr ⟨places, List.pairwise_singleton _ _, ?_⟩
      intro other member final final'
      obtain rfl := List.mem_singleton.mp final'
      have member' := (holds.mem_keys_iff other).mp member
      rw [List.idxOf_append_of_mem member', List.idxOf_append_of_notMem (mt (holds.mem_keys_iff _).mpr fresh),
        List.idxOf_cons_self, Nat.add_zero]
      exact List.idxOf_lt_length_of_mem member'
  · intro entry member
    by_cases same : entry.1 = key
    · have found := get?_put_self kept key value
      rw [← same, get?_eq_some_iff (nodup_keys_put holds.nodup _ _)] at found
      have entry' : entry = (entry.1, value) :=
        List.inj_on_of_nodup_map (nodup_keys_put holds.nodup _ _) member (same ▸ found) rfl
      rw [entry', same]
      exact lastUnder_concat_self written key value
    · have member' : entry ∈ kept := (mem_put member).resolve_left fun equal => same (equal ▸ rfl)
      exact (holds.last entry member').concat same value

theorem mem (holds : Kept written kept) (holds' : Kept written kept') {entry : κ × α} (member : entry ∈ kept) :
    entry ∈ kept' := by
  have last := holds.last entry member
  obtain ⟨entry', member', same⟩ := List.mem_map.mp (holds'.every entry.1 last.mem_keys)
  have last' := holds'.last entry' member'
  rw [same] at last'
  exact Prod.ext same (last'.eq last) ▸ member'

theorem eq (holds : Kept written kept) (holds' : Kept written kept') : kept = kept' := by
  have same : kept.Perm kept' := by
    refine (List.perm_ext_iff_of_nodup holds.nodup.of_map holds'.nodup.of_map).mpr fun entry => ?_
    exact ⟨holds.mem holds', holds'.mem holds⟩
  have order := List.pairwise_map.mp holds.order
  have order' := List.pairwise_map.mp holds'.order
  refine same.eq_of_pairwise ?_ order order'
  intro one other _ _ before after
  exact absurd (Nat.lt_trans before after) (Nat.lt_irrefl _)

end Kept

theorem kept_ofWritten (written : List (κ × α)) : Kept written (ofWritten written) := by
  induction written using List.reverseRecOn with
  | nil => exact ⟨fun _ member => member, List.Pairwise.nil, nofun⟩
  | append_singleton written entry ih =>
    have onward : ofWritten (written ++ [entry]) = put (ofWritten written) entry.1 entry.2 :=
      List.foldl_append
    rw [onward]
    exact ih.put entry.1 entry.2

/-- The map of entries is exactly what is kept of them. -/
theorem kept_iff : Kept written kept ↔ kept = ofWritten written := by
  constructor
  · exact fun holds => holds.eq (kept_ofWritten written)
  · rintro rfl
    exact kept_ofWritten written

end PermissionRules.Ordered
