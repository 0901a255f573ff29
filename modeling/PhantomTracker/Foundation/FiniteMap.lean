import Mathlib.Data.Finset.Card
import Mathlib.Data.List.AList

/-!
Contract: finite maps with unique keys, and the number of their entries that
satisfy a predicate.

Owns: what inserting and erasing one key or a list of keys does to a lookup;
properties of all entries; the
count of the entries of a map under a Boolean predicate on key and value; how
inserting, overwriting and erasing one key moves that count; the bound
between the counts of two predicates; and the count as the size of a set of keys.

Does not own: any particular key or value type, or an iteration order beyond
the order in which Mathlib's `AList` stores its entries.
-/

namespace PhantomTracker.Foundation

universe u v

/-- A finite map from `κ` to `ν` in which no key occurs twice. -/
abbrev FiniteMap (κ : Type u) (ν : Type v) := AList (fun _ : κ => ν)

namespace FiniteMap

variable {κ : Type u} {ν : Type v}

/-- Number of entries whose key and value satisfy `p`. -/
def countWhere (p : κ → ν → Bool) (map : FiniteMap κ ν) : Nat :=
  map.entries.countP fun entry => p entry.1 entry.2

theorem countWhere_le_of_imp {p q : κ → ν → Bool} (map : FiniteMap κ ν)
    (weaker : ∀ key value, p key value = true → q key value = true) :
    countWhere p map ≤ countWhere q map :=
  List.countP_mono_left fun entry _ => weaker entry.1 entry.2

/-- A predicate and its complement partition what a weaker one counts. -/
theorem countWhere_split (p q : κ → ν → Bool) (map : FiniteMap κ ν) :
    countWhere (fun key value => p key value && q key value) map +
        countWhere (fun key value => p key value && !q key value) map =
      countWhere p map := by
  show map.entries.countP (fun entry => p entry.1 entry.2 && q entry.1 entry.2) +
      map.entries.countP (fun entry => p entry.1 entry.2 && !q entry.1 entry.2) =
    map.entries.countP fun entry => p entry.1 entry.2
  induction map.entries with
  | nil => rfl
  | cons entry rest inductionHypothesis =>
      simp only [List.countP_cons]
      cases p entry.1 entry.2 <;> cases q entry.1 entry.2 <;> simp <;> omega

variable [DecidableEq κ]

/-- A property of all entries, checked on the list that stores them. -/
theorem forall_lookup_iff {map : FiniteMap κ ν} {p : κ → ν → Prop} :
    (∀ key value, map.lookup key = some value → p key value) ↔
      ∀ entry ∈ map.entries, p entry.1 entry.2 := by
  constructor
  · intro all entry member
    exact all entry.1 entry.2 (AList.mem_lookup_iff.mpr member)
  · intro all key value found
    exact all ⟨key, value⟩ (AList.mem_lookup_iff.mp found)

instance {map : FiniteMap κ ν} {p : κ → ν → Prop} [∀ key value, Decidable (p key value)] :
    Decidable (∀ key value, map.lookup key = some value → p key value) :=
  decidable_of_iff' _ forall_lookup_iff

/-- Maps that agree on every key still do after the same insertion. -/
theorem lookup_insert_congr {left right : FiniteMap κ ν}
    (agree : ∀ key, left.lookup key = right.lookup key) (inserted : κ) (value : ν) (key : κ) :
    (left.insert inserted value).lookup key = (right.insert inserted value).lookup key := by
  by_cases same : key = inserted
  · subst same
    rw [AList.lookup_insert, AList.lookup_insert]
  · rw [AList.lookup_insert_ne same, AList.lookup_insert_ne same, agree]

/-- What is found after an insertion was there before, or is under the inserted key. -/
theorem lookup_or_eq_of_insert {map : FiniteMap κ ν} {inserted key : κ} {value found : ν}
    (present : (map.insert inserted value).lookup key = some found) :
    map.lookup key = some found ∨ key = inserted := by
  by_cases same : key = inserted
  · exact Or.inr same
  · rw [AList.lookup_insert_ne same] at present
    exact Or.inl present

/-- Writing back the value of a key changes no lookup. -/
theorem lookup_insert_self {map : FiniteMap κ ν} {present : κ} {value : ν}
    (found : map.lookup present = some value) (key : κ) :
    (map.insert present value).lookup key = map.lookup key := by
  by_cases same : key = present
  · subst same
    rw [AList.lookup_insert, found]
  · rw [AList.lookup_insert_ne same]

/-- Erasing a list of keys. -/
theorem lookup_foldl_erase (keys : List κ) (map : FiniteMap κ ν) (key : κ) :
    (keys.foldl (fun left erased => left.erase erased) map).lookup key =
      if key ∈ keys then none else map.lookup key := by
  induction keys generalizing map with
  | nil => simp
  | cons erased rest inductionHypothesis =>
      rw [List.foldl_cons, inductionHypothesis]
      by_cases later : key ∈ rest
      · rw [if_pos later, if_pos (List.mem_cons_of_mem erased later)]
      · by_cases same : key = erased
        · subst same
          rw [if_neg later, if_pos List.mem_cons_self, AList.lookup_erase]
        · rw [if_neg later, if_neg (by simp [same, later]), AList.lookup_erase_ne same]

/-- Inserting a list of items: a key holds the value of one of the items that
have it, or what it held before. -/
theorem lookup_foldl_insert {ι : Type*} (keyOf : ι → κ) (valueOf : ι → ν) (items : List ι)
    (map : FiniteMap κ ν) (key : κ) :
    (∃ item ∈ items, keyOf item = key ∧
        (items.foldl (fun stored item => stored.insert (keyOf item) (valueOf item)) map).lookup key =
          some (valueOf item)) ∨
      (∀ item ∈ items, keyOf item ≠ key) ∧
        (items.foldl (fun stored item => stored.insert (keyOf item) (valueOf item)) map).lookup key =
          map.lookup key := by
  induction items generalizing map with
  | nil => exact Or.inr ⟨fun item member => absurd member List.not_mem_nil, rfl⟩
  | cons first rest inductionHypothesis =>
      rw [List.foldl_cons]
      rcases inductionHypothesis (map.insert (keyOf first) (valueOf first)) with
        ⟨item, member, same, stored⟩ | ⟨absent, unchanged⟩
      · exact Or.inl ⟨item, List.mem_cons_of_mem first member, same, stored⟩
      · by_cases same : keyOf first = key
        · subst same
          rw [unchanged, AList.lookup_insert]
          exact Or.inl ⟨first, List.mem_cons_self, rfl, rfl⟩
        · rw [unchanged, AList.lookup_insert_ne (Ne.symm same)]
          refine Or.inr ⟨fun item member => ?_, rfl⟩
          rcases List.mem_cons.mp member with rfl | later
          · exact same
          · exact absent item later

/-- Contribution of one key to `countWhere`. -/
def hit (p : κ → ν → Bool) (map : FiniteMap κ ν) (key : κ) : Nat :=
  match map.lookup key with
  | some value => (p key value).toNat
  | none => 0

theorem hit_of_lookup {p : κ → ν → Bool} {map : FiniteMap κ ν} {key : κ} {value : ν}
    (found : map.lookup key = some value) : hit p map key = (p key value).toNat := by
  simp only [hit, found]

theorem hit_of_absent {p : κ → ν → Bool} {map : FiniteMap κ ν} {key : κ}
    (absent : map.lookup key = none) : hit p map key = 0 := by
  simp only [hit, absent]

private theorem countP_split (p : κ → ν → Bool) (key : κ) :
    ∀ entries : List (Sigma fun _ : κ => ν),
      entries.countP (fun entry => p entry.1 entry.2) =
        (entries.kerase key).countP (fun entry => p entry.1 entry.2) +
          (match entries.dlookup key with
          | some value => (p key value).toNat
          | none => 0)
  | [] => rfl
  | entry :: rest => by
      by_cases same : key = entry.1
      · subst same
        rw [List.kerase_cons_eq rfl, List.dlookup_cons_eq, List.countP_cons]
        cases status : p entry.1 entry.2 <;> simp [status]
      · rw [List.kerase_cons_ne same, List.dlookup_cons_ne _ _ same, List.countP_cons,
          List.countP_cons, countP_split p key rest]
        omega

/-- The count splits into the entry at one key and all the others. -/
theorem countWhere_eq_erase_add_hit (p : κ → ν → Bool) (map : FiniteMap κ ν) (key : κ) :
    countWhere p map = countWhere p (map.erase key) + hit p map key :=
  countP_split p key map.entries

theorem countWhere_insert (p : κ → ν → Bool) (map : FiniteMap κ ν) (key : κ) (value : ν) :
    countWhere p (map.insert key value) =
      countWhere p (map.erase key) + (p key value).toNat := by
  have head := countWhere_eq_erase_add_hit p (map.insert key value) key
  have tail : (map.insert key value).erase key = map.erase key := by
    apply AList.ext
    change (List.kinsert key value map.entries).kerase key = map.entries.kerase key
    rw [List.kinsert_def]
    have headErased : (⟨key, value⟩ :: map.entries.kerase key).kerase key =
        map.entries.kerase key :=
      List.kerase_cons_eq rfl
    exact headErased
  rw [head, tail, hit_of_lookup (AList.lookup_insert map)]

/-- Writing one key moves the count by what the key contributed before and
contributes now. -/
theorem countWhere_insert_add_hit (p : κ → ν → Bool) (map : FiniteMap κ ν) (key : κ)
    (value : ν) :
    countWhere p (map.insert key value) + hit p map key =
      countWhere p map + (p key value).toNat := by
  rw [countWhere_insert, countWhere_eq_erase_add_hit p map key]
  omega

/-- Overwriting a key with a value of the same status leaves the count alone. -/
theorem countWhere_insert_of_same {p : κ → ν → Bool} {map : FiniteMap κ ν} {key : κ}
    {old new : ν} (found : map.lookup key = some old) (same : p key new = p key old) :
    countWhere p (map.insert key new) = countWhere p map := by
  have moved := countWhere_insert_add_hit p map key new
  rw [hit_of_lookup found, same] at moved
  omega

theorem countWhere_insert_of_absent {p : κ → ν → Bool} {map : FiniteMap κ ν} {key : κ}
    {value : ν} (absent : map.lookup key = none) :
    countWhere p (map.insert key value) = countWhere p map + (p key value).toNat := by
  have moved := countWhere_insert_add_hit p map key value
  rw [hit_of_absent absent] at moved
  exact moved

/-- Erasing a key that does not satisfy the predicate leaves the count alone. -/
theorem countWhere_erase_of_not {p : κ → ν → Bool} {map : FiniteMap κ ν} {key : κ}
    (miss : ∀ value, map.lookup key = some value → p key value = false) :
    countWhere p (map.erase key) = countWhere p map := by
  rw [countWhere_eq_erase_add_hit p map key]
  cases found : map.lookup key with
  | none => rw [hit_of_absent found, Nat.add_zero]
  | some value => rw [hit_of_lookup found, miss value found, Bool.toNat_false, Nat.add_zero]

/-- An entry counted by `q` and not by `p` makes the inequality strict. -/
theorem countWhere_lt_of_imp {p q : κ → ν → Bool} {map : FiniteMap κ ν} {key : κ} {value : ν}
    (weaker : ∀ key value, p key value = true → q key value = true)
    (found : map.lookup key = some value) (inside : q key value = true)
    (outside : p key value = false) : countWhere p map < countWhere q map := by
  have below := countWhere_le_of_imp (map.erase key) weaker
  rw [countWhere_eq_erase_add_hit p map key, countWhere_eq_erase_add_hit q map key,
    hit_of_lookup found, hit_of_lookup found, inside, outside]
  simp only [Bool.toNat_false, Bool.toNat_true]
  omega

theorem countWhere_pos {p : κ → ν → Bool} {map : FiniteMap κ ν} {key : κ} {value : ν}
    (found : map.lookup key = some value) (inside : p key value = true) :
    0 < countWhere p map := by
  rw [countWhere_eq_erase_add_hit p map key, hit_of_lookup found, inside]
  simp only [Bool.toNat_true]
  omega

/-- It is enough to compare two predicates on the entries of the map. -/
theorem countWhere_le_of_lookup {p q : κ → ν → Bool} {map : FiniteMap κ ν}
    (weaker : ∀ key value, map.lookup key = some value → p key value = true →
      q key value = true) : countWhere p map ≤ countWhere q map := by
  apply List.countP_mono_left
  intro entry member holds
  exact weaker entry.1 entry.2 (AList.mem_lookup_iff.mpr member) holds

/-- A predicate that no entry satisfies counts nothing. -/
theorem countWhere_eq_zero {p : κ → ν → Bool} {map : FiniteMap κ ν}
    (none : ∀ key value, map.lookup key = some value → p key value = false) :
    countWhere p map = 0 := by
  apply List.countP_eq_zero.mpr
  intro entry member
  have found : map.lookup entry.1 = some entry.2 :=
    AList.mem_lookup_iff.mpr member
  simp [none entry.1 entry.2 found]

/-- The keys that satisfy a predicate, as a set, are as many as the predicate counts. -/
theorem countWhere_eq_card {p : κ → ν → Bool} {map : FiniteMap κ ν}
    {keys : Finset κ}
    (exactly : ∀ key, key ∈ keys ↔ ∃ value, map.lookup key = some value ∧ p key value = true) :
    countWhere p map = keys.card := by
  let counted := map.entries.filter fun entry => p entry.1 entry.2
  have nodup : (counted.map Sigma.fst).Nodup :=
    (List.filter_sublist.map Sigma.fst).nodup map.nodupKeys
  have same : keys = (counted.map Sigma.fst).toFinset := by
    ext key
    rw [exactly, List.mem_toFinset, List.mem_map]
    constructor
    · rintro ⟨value, found, holds⟩
      exact ⟨⟨key, value⟩, List.mem_filter.mpr ⟨AList.mem_lookup_iff.mp found, holds⟩, rfl⟩
    · rintro ⟨entry, member, rfl⟩
      obtain ⟨inside, holds⟩ := List.mem_filter.mp member
      exact ⟨entry.2, AList.mem_lookup_iff.mpr inside, holds⟩
  rw [same, List.toFinset_card_of_nodup nodup, List.length_map]
  exact List.countP_eq_length_filter

end FiniteMap

end PhantomTracker.Foundation
