import PermissionRules.Ordered
import Mathlib.Data.List.Nodup

/-! Laws of ordered maps. A put is seen under its own key and under no other one; the keys that are
there keep their places and a new one goes to the end, so that keys stay distinct, and entries with
distinct keys written one after the other are the map itself. Over keys that are there already, entries
with one value under each key can be put in any order and any number of times. -/
namespace PermissionRules.Ordered
variable {κ α : Type}

theorem keys_cons (entry : κ × α) (rest : List (κ × α)) :
    keys (entry :: rest) = entry.1 :: keys rest :=
  rfl

/-- Entries with one value under each key. -/
def Consistent (entries : List (κ × α)) : Prop :=
  ∀ one ∈ entries, ∀ other ∈ entries, one.1 = other.1 → one.2 = other.2

theorem consistent_of_nodup {entries : List (κ × α)} (distinct : (keys entries).Nodup) :
    Consistent entries := by
  intro one member other member' same
  rw [List.inj_on_of_nodup_map distinct member member' same]

variable [DecidableEq κ]

@[simp]
theorem get?_put_self (map : Ordered κ α) (key : κ) (value : α) :
    (map.put key value).get? key = some value := by
  induction map with
  | nil => simp [put, get?]
  | cons entry rest ih =>
    obtain ⟨first, held⟩ := entry
    by_cases same : first = key
    · simp [put, get?, same]
    · simp only [put, if_neg same, get?, ih]

theorem get?_put_of_ne {key other : κ} (map : Ordered κ α) (value : α) (different : key ≠ other) :
    (map.put key value).get? other = map.get? other := by
  induction map with
  | nil => simp [put, get?, different]
  | cons entry rest ih =>
    obtain ⟨first, held⟩ := entry
    by_cases same : first = key
    · subst first
      simp only [put, if_pos, get?, if_neg different]
    · simp only [put, if_neg same, get?, ih]

theorem mem_put {map : Ordered κ α} {key : κ} {value : α} {entry : κ × α}
    (member : entry ∈ map.put key value) : entry = (key, value) ∨ entry ∈ map := by
  induction map with
  | nil => exact .inl (List.mem_singleton.mp member)
  | cons head rest ih =>
    obtain ⟨first, held⟩ := head
    by_cases same : first = key
    · simp only [put, if_pos same, List.mem_cons] at member
      exact member.imp_right (List.mem_cons_of_mem _)
    · simp only [put, if_neg same, List.mem_cons] at member
      rcases member with rfl | member
      · exact .inr List.mem_cons_self
      · exact (ih member).imp_right (List.mem_cons_of_mem _)

theorem mem_of_get? {map : Ordered κ α} {key : κ} {value : α}
    (found : map.get? key = some value) : (key, value) ∈ map := by
  induction map with
  | nil => simp [get?] at found
  | cons entry rest ih =>
    obtain ⟨first, held⟩ := entry
    by_cases same : first = key
    · simp only [get?, if_pos same, Option.some.injEq] at found
      simp [same, found]
    · simp only [get?, if_neg same] at found
      exact List.mem_cons_of_mem _ (ih found)

theorem keys_put (map : Ordered κ α) (key : κ) (value : α) :
    (map.put key value).keys = if key ∈ map.keys then map.keys else map.keys ++ [key] := by
  induction map with
  | nil => rfl
  | cons entry rest ih =>
    obtain ⟨first, held⟩ := entry
    by_cases same : first = key
    · simp [put, same, keys_cons]
    · rw [put, if_neg same, keys_cons, keys_cons, ih]
      by_cases member : key ∈ keys rest
      · rw [if_pos member, if_pos (List.mem_cons_of_mem _ member)]
      · rw [if_neg member, if_neg (by simp [member, Ne.symm same]), List.cons_append]

theorem nodup_keys_put {map : Ordered κ α} (distinct : map.keys.Nodup) (key : κ) (value : α) :
    (map.put key value).keys.Nodup := by
  rw [keys_put]
  split
  case isTrue => exact distinct
  case isFalse fresh =>
    refine List.nodup_append.mpr ⟨distinct, by simp, ?_⟩
    rintro other member last final rfl
    exact fresh (List.mem_singleton.mp final ▸ member)

/-- A put under a key that is not there yet goes to the end. -/
theorem put_of_not_mem {map : Ordered κ α} {key : κ} (fresh : key ∉ map.keys) (value : α) :
    map.put key value = map ++ [(key, value)] := by
  induction map with
  | nil => rfl
  | cons entry rest ih =>
    obtain ⟨first, held⟩ := entry
    simp only [keys, List.map_cons, List.mem_cons, not_or] at fresh
    simp only [put, if_neg (Ne.symm fresh.1), ih fresh.2, List.cons_append]

/-- A value that is put where it is held already changes nothing. -/
theorem put_of_get? {map : Ordered κ α} {key : κ} {value : α}
    (held : map.get? key = some value) : map.put key value = map := by
  induction map with
  | nil => contradiction
  | cons entry rest ih =>
    obtain ⟨first, value'⟩ := entry
    by_cases same : first = key
    · rw [get?, if_pos same, Option.some.injEq] at held
      rw [put, if_pos same, same, held]
    · rw [get?, if_neg same] at held
      rw [put, if_neg same, ih held]

/-- The map after entries are put into it one after the other. -/
def putAll (map : Ordered κ α) (entries : List (κ × α)) : Ordered κ α :=
  entries.foldl (fun map entry => map.put entry.1 entry.2) map

theorem putAll_cons (map : Ordered κ α) (entry : κ × α) (rest : List (κ × α)) :
    map.putAll (entry :: rest) = (map.put entry.1 entry.2).putAll rest :=
  rfl

theorem put_eq_putAll (map : Ordered κ α) (key : κ) (value : α) :
    map.put key value = map.putAll [(key, value)] :=
  rfl

theorem ofWritten_eq_putAll (written : List (κ × α)) : ofWritten written = putAll [] written :=
  rfl

theorem nodup_keys_putAll {map : Ordered κ α} (distinct : map.keys.Nodup) (entries : List (κ × α)) :
    (map.putAll entries).keys.Nodup := by
  induction entries generalizing map with
  | nil => exact distinct
  | cons entry rest ih => exact ih (nodup_keys_put distinct entry.1 entry.2)

theorem mem_putAll {map : Ordered κ α} {entries : List (κ × α)} {entry : κ × α}
    (member : entry ∈ map.putAll entries) : entry ∈ map ∨ entry ∈ entries := by
  induction entries generalizing map with
  | nil => exact .inl member
  | cons first rest ih =>
    rcases ih member with member | member
    · rcases mem_put member with rfl | member
      · exact .inr List.mem_cons_self
      · exact .inl member
    · exact .inr (List.mem_cons_of_mem _ member)

/-- The keys that a map does not have yet go to its end, in the order in which they are put. -/
theorem keys_putAll (map : Ordered κ α) {entries : List (κ × α)} (distinct : (keys entries).Nodup) :
    (map.putAll entries).keys = map.keys ++ (keys entries).filter (· ∉ map.keys) := by
  induction entries generalizing map with
  | nil => simp [putAll, keys]
  | cons entry rest ih =>
    obtain ⟨key, value⟩ := entry
    obtain ⟨fresh, distinct⟩ := List.nodup_cons.mp distinct
    rw [putAll_cons, ih _ distinct, keys_put, keys_cons]
    by_cases held : key ∈ map.keys
    · rw [if_pos held, List.filter_cons_of_neg (by simpa using held)]
    · have others : ∀ other ∈ keys rest,
          decide (other ∉ map.keys ++ [key]) = decide (other ∉ map.keys) := by
        intro other member
        have different : other ≠ key := by
          rintro rfl
          exact fresh member
        simp [different]
      rw [if_neg held, List.filter_congr others, List.filter_cons_of_pos (by simpa using held),
        List.append_assoc, List.singleton_append]

theorem get?_putAll_of_not_mem (map : Ordered κ α) {entries : List (κ × α)} {key : κ}
    (other : key ∉ keys entries) : (map.putAll entries).get? key = map.get? key := by
  induction entries generalizing map with
  | nil => rfl
  | cons entry rest ih =>
    rw [keys_cons, List.mem_cons, not_or] at other
    rw [putAll_cons, ih _ other.2, get?_put_of_ne _ _ (Ne.symm other.1)]

theorem get?_putAll_of_consistent (map : Ordered κ α) {entries : List (κ × α)}
    (consistent : Consistent entries) {entry : κ × α} (member : entry ∈ entries) :
    (map.putAll entries).get? entry.1 = some entry.2 := by
  induction entries generalizing map entry with
  | nil => contradiction
  | cons first rest ih =>
    have consistent' : Consistent rest := fun one one' other other' =>
      consistent one (List.mem_cons_of_mem _ one') other (List.mem_cons_of_mem _ other')
    rw [putAll_cons]
    by_cases again : entry.1 ∈ keys rest
    · obtain ⟨last, last', same⟩ := List.mem_map.mp again
      have value := consistent last (List.mem_cons_of_mem _ last') entry member same
      rw [← same, ← value]
      exact ih _ consistent' last'
    · have head : entry = first := by
        rcases List.mem_cons.mp member with head | member
        · exact head
        · exact absurd (List.mem_map_of_mem member) again
      rw [get?_putAll_of_not_mem _ again, head, get?_put_self]

theorem get?_putAll (map : Ordered κ α) {entries : List (κ × α)} (distinct : (keys entries).Nodup)
    {entry : κ × α} (member : entry ∈ entries) :
    (map.putAll entries).get? entry.1 = some entry.2 :=
  get?_putAll_of_consistent map (consistent_of_nodup distinct) member

/-- Entries that a map holds already change nothing. -/
theorem putAll_of_get? {map : Ordered κ α} {entries : List (κ × α)}
    (held : ∀ entry ∈ entries, map.get? entry.1 = some entry.2) : map.putAll entries = map := by
  induction entries with
  | nil => rfl
  | cons entry rest ih =>
    obtain ⟨first, others⟩ := List.forall_mem_cons.mp held
    rw [putAll_cons, put_of_get? first, ih others]

theorem mem_keys_of_get? {map : Ordered κ α} {key : κ} {value : α}
    (found : map.get? key = some value) : key ∈ map.keys :=
  List.mem_map_of_mem (mem_of_get? found)

theorem keys_put_of_mem {map : Ordered κ α} {key : κ} (held : key ∈ map.keys) (value : α) :
    (map.put key value).keys = map.keys := by
  rw [keys_put, if_pos held]

theorem keys_putAll_of_mem {map : Ordered κ α} {entries : List (κ × α)}
    (held : ∀ entry ∈ entries, entry.1 ∈ map.keys) : (map.putAll entries).keys = map.keys := by
  induction entries generalizing map with
  | nil => rfl
  | cons entry rest ih =>
    obtain ⟨first, others⟩ := List.forall_mem_cons.mp held
    have same := keys_put_of_mem first entry.2
    rw [putAll_cons, ih (same ▸ others), same]

/-- A put over a value that is held can be exchanged with a put under another key. -/
theorem put_comm {map : Ordered κ α} {key other : κ} (held : key ∈ map.keys) (different : key ≠ other)
    (value value' : α) :
    (map.put key value).put other value' = (map.put other value').put key value := by
  induction map with
  | nil => contradiction
  | cons entry rest ih =>
    obtain ⟨first, before⟩ := entry
    by_cases same : first = key
    · subst first
      simp only [put, if_pos, if_neg different]
    · by_cases same' : first = other
      · subst first
        simp only [put, if_pos, if_neg same]
      · have held' : key ∈ keys rest := by
          rw [keys_cons] at held
          exact (List.mem_cons.mp held).resolve_left (Ne.symm same)
        simp only [put, if_neg same, if_neg same', ih held']

theorem put_putAll {map : Ordered κ α} {key : κ} (held : key ∈ map.keys) {value : α}
    {entries : List (κ × α)} (agrees : ∀ entry ∈ entries, entry.1 = key → entry.2 = value) :
    (map.put key value).putAll entries = (map.putAll entries).put key value := by
  induction entries generalizing map with
  | nil => rfl
  | cons entry rest ih =>
    obtain ⟨first, others⟩ := List.forall_mem_cons.mp agrees
    by_cases same : entry.1 = key
    · have entry_eq : entry = (key, value) := Prod.ext same (first same)
      have held' : key ∈ (map.put key value).keys := by rwa [keys_put_of_mem held]
      rw [entry_eq, putAll_cons, putAll_cons]
      exact ih held' others
    · have held' : key ∈ (map.put entry.1 entry.2).keys := by
        rw [keys_put]
        split
        · exact held
        · exact List.mem_append_left _ held
      calc (map.put key value).putAll (entry :: rest)
          = ((map.put entry.1 entry.2).put key value).putAll rest := by
            rw [putAll_cons, put_comm held (Ne.symm same)]
        _ = ((map.put entry.1 entry.2).putAll rest).put key value := ih held' others

/-- Entries over values that are held can be put before or after others that agree with them. -/
theorem putAll_comm {map : Ordered κ α} {entries entries' : List (κ × α)}
    (held : ∀ entry ∈ entries, entry.1 ∈ map.keys)
    (agree : ∀ one ∈ entries, ∀ other ∈ entries', other.1 = one.1 → other.2 = one.2) :
    (map.putAll entries).putAll entries' = (map.putAll entries').putAll entries := by
  induction entries generalizing map with
  | nil => rfl
  | cons entry rest ih =>
    obtain ⟨first, others⟩ := List.forall_mem_cons.mp held
    obtain ⟨agrees, agree⟩ := List.forall_mem_cons.mp agree
    have others' : ∀ other ∈ rest, other.1 ∈ (map.put entry.1 entry.2).keys := by
      rwa [keys_put_of_mem first]
    rw [putAll_cons, ih others' agree, put_putAll first agrees, putAll_cons]

/-- Neither the order of consistent entries nor their repetition matters, as long as they are put over
values that are held. -/
theorem putAll_congr {map : Ordered κ α} {entries entries' : List (κ × α)}
    (held : ∀ entry ∈ entries, entry.1 ∈ map.keys) (consistent : Consistent entries)
    (same : ∀ entry, entry ∈ entries ↔ entry ∈ entries') :
    map.putAll entries = map.putAll entries' := by
  have consistent' : Consistent entries' := fun one one' other other' =>
    consistent one ((same one).mpr one') other ((same other).mpr other')
  have agree : ∀ one ∈ entries, ∀ other ∈ entries', other.1 = one.1 → other.2 = one.2 :=
    fun one one' other other' => consistent other ((same other).mpr other') one one'
  -- Whatever was put already is absorbed by the map that holds it.
  calc map.putAll entries
      = (map.putAll entries).putAll entries' := Eq.symm <| putAll_of_get? fun entry member =>
        get?_putAll_of_consistent map consistent ((same entry).mpr member)
    _ = (map.putAll entries').putAll entries := putAll_comm held agree
    _ = map.putAll entries' := putAll_of_get? fun entry member =>
        get?_putAll_of_consistent map consistent' ((same entry).mp member)

theorem putAll_of_nodup (map : Ordered κ α) {entries : List (κ × α)}
    (distinct : (keys (map ++ entries)).Nodup) : map.putAll entries = map ++ entries := by
  induction entries generalizing map with
  | nil => rw [List.append_nil, putAll, List.foldl_nil]
  | cons entry rest ih =>
    have fresh : entry.1 ∉ keys map := by
      intro member
      rw [keys, List.map_append] at distinct
      exact (List.nodup_append.mp distinct).2.2 _ member _ List.mem_cons_self rfl
    rw [putAll_cons, put_of_not_mem fresh, ih _ (by simpa using distinct), List.append_assoc,
      List.singleton_append]

theorem nodup_keys_ofWritten (written : List (κ × α)) : (ofWritten written).keys.Nodup := by
  have distinct : (keys ([] : List (κ × α))).Nodup := List.nodup_nil
  rw [ofWritten_eq_putAll]
  exact nodup_keys_putAll distinct written

theorem mem_of_mem_ofWritten {written : List (κ × α)} {entry : κ × α}
    (member : entry ∈ ofWritten written) : entry ∈ written := by
  rw [ofWritten_eq_putAll] at member
  exact (mem_putAll member).resolve_left List.not_mem_nil

theorem ofWritten_of_nodup {written : List (κ × α)} (distinct : (keys written).Nodup) :
    ofWritten written = written := by
  rw [ofWritten_eq_putAll, putAll_of_nodup [] distinct, List.nil_append]

theorem get?_eq_some_iff {map : Ordered κ α} {key : κ} {value : α} (distinct : map.keys.Nodup) :
    map.get? key = some value ↔ (key, value) ∈ map := by
  constructor
  · intro found
    exact mem_of_get? found
  · intro member
    have found := get?_putAll [] distinct member
    rw [← ofWritten_eq_putAll, ofWritten_of_nodup distinct] at found
    exact found

end PermissionRules.Ordered
