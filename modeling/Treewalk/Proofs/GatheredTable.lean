import Treewalk.Proofs.KeyEquality
import Treewalk.Proofs.Parameters

/-!
What a table holds after pairs of a name and a value have been inserted one after another: of each
group of equal names one entry, named as the first of them, at the place where that came up, with the
value of the last of them (`Table.Gathers`). One more pair keeps this up, whether its name is there
(`Gathers.insert_of_found`) or new (`Gathers.insert_of_new`), and so a table that pairs have been
inserted into holds it of all of them (`Gathers.merge`). All that is asked of the keys is that they
tell which of the names are equal (`Table.Keyed`).
-/

set_option autoImplicit false
set_option relaxedAutoImplicit false

namespace Treewalk

/-! ### First and last of a kind -/

namespace Entry

variable {wanted : Entry → Prop} {pairs : List Entry} {pair added : Entry}

/-- A pair is the first of a kind. -/
def IsFirst (wanted : Entry → Prop) (pairs : List Entry) (pair : Entry) : Prop :=
  ∃ front back, pairs = front ++ pair :: back ∧ wanted pair ∧ ∀ other ∈ front, ¬ wanted other

/-- A pair is the last of a kind. -/
def IsLast (wanted : Entry → Prop) (pairs : List Entry) (pair : Entry) : Prop :=
  ∃ front back, pairs = front ++ pair :: back ∧ wanted pair ∧ ∀ other ∈ back, ¬ wanted other

theorem IsFirst.mem (hfirst : IsFirst wanted pairs pair) : pair ∈ pairs := by
  obtain ⟨front, back, rfl, -⟩ := hfirst
  simp

theorem IsFirst.append (hfirst : IsFirst wanted pairs pair) (more : List Entry) :
    IsFirst wanted (pairs ++ more) pair := by
  obtain ⟨front, back, rfl, hpair, hfront⟩ := hfirst
  exact ⟨front, back ++ more, by simp, hpair, hfront⟩

theorem IsFirst.of_last (hpair : wanted pair) (hnone : ∀ other ∈ pairs, ¬ wanted other) :
    IsFirst wanted (pairs ++ [pair]) pair :=
  ⟨pairs, [], rfl, hpair, hnone⟩

theorem IsLast.append (hlast : IsLast wanted pairs pair) (hadded : ¬ wanted added) :
    IsLast wanted (pairs ++ [added]) pair := by
  obtain ⟨front, back, rfl, hpair, hback⟩ := hlast
  refine ⟨front, back ++ [added], by simp, hpair, fun other hother ↦ ?_⟩
  rcases List.mem_append.mp hother with hother | hother
  · exact hback other hother
  · exact List.mem_singleton.mp hother ▸ hadded

theorem IsLast.of_last (hadded : wanted added) : IsLast wanted (pairs ++ [added]) added :=
  ⟨pairs, [], rfl, hadded, nofun⟩

/-- An entry with another value, if it is that of a key. -/
def renew (key : Key) (value : Value) (entry : Entry) : Entry :=
  if entry.key = key then { entry with value := value } else entry

theorem name_renew (key : Key) (value : Value) (entry : Entry) :
    (entry.renew key value).name = entry.name := by
  unfold renew
  split <;> rfl

theorem key_renew (key : Key) (value : Value) (entry : Entry) :
    (entry.renew key value).key = entry.key := by
  unfold renew
  split <;> rfl

end Entry

/-! ### Tables that gather pairs -/

namespace Table

/-- A table has gathered pairs of a name, its key and a value: its names are distinct, they stand in
the order in which they came up first, as they were then, and each has the value that came last. -/
structure Gathers (table : Table) (pairs : List Entry) : Prop where
  distinct : table.Pairwise fun entry other ↦ ¬ entry.name.Equals other.name
  ordered : table.Pairwise fun entry other ↦ ∃ front pair back, pairs = front ++ pair :: back ∧
    pair.name.Equals entry.name ∧ ∀ earlier ∈ front, ¬ earlier.name.Equals other.name
  first : ∀ entry ∈ table, ∃ pair, Entry.IsFirst (·.name.Equals entry.name) pairs pair ∧
    pair.key = entry.key ∧ pair.name = entry.name
  last : ∀ entry ∈ table, ∃ pair, Entry.IsLast (·.name.Equals entry.name) pairs pair ∧
    pair.value = entry.value
  found : ∀ pair ∈ pairs, ∃ entry ∈ table, entry.name.Equals pair.name ∧
    table.find? pair.key = some entry.value

/-- The keys of pairs tell which names are equal. -/
def Keyed (pairs : List Entry) : Prop :=
  ∀ pair ∈ pairs, ∀ other ∈ pairs, pair.key = other.key ↔ pair.name.Equals other.name

/-! ### One more pair -/

variable {table : Table} {pairs : List Entry} {added : Entry} {key : Key}

/-- Inserting one more entry after others. -/
theorem merge_concat (table : Table) (entries : List Entry) (added : Entry) :
    table.merge (entries ++ [added]) =
      (table.merge entries).insert added.key added.name added.value :=
  List.foldl_concat ..

theorem insert_of_new (name value : Value) (hnew : ∀ entry ∈ table, entry.key ≠ key) :
    table.insert key name value = table ++ [⟨key, name, value⟩] := by
  induction table with
  | nil => rfl
  | cons entry rest ih =>
    obtain ⟨hentry, hrest⟩ := List.forall_mem_cons.mp hnew
    rw [insert, if_neg hentry, ih hrest, List.cons_append]

theorem insert_of_found (name value : Value) (hfound : ∃ entry ∈ table, entry.key = key)
    (hkeys : table.Pairwise fun entry other ↦ entry.key ≠ other.key) :
    table.insert key name value = table.map (Entry.renew key value) := by
  induction table with
  | nil =>
    obtain ⟨entry, hentry, -⟩ := hfound
    cases hentry
  | cons entry rest ih =>
    obtain ⟨hfirst, hrest⟩ := List.pairwise_cons.mp hkeys
    rw [insert, List.map_cons, Entry.renew]
    by_cases hkey : entry.key = key
    · have hothers : rest.map (Entry.renew key value) = rest :=
        (List.map_congr_left fun other hother ↦
          if_neg fun hsame ↦ hfirst other hother (hkey.trans hsame.symm)).trans (List.map_id rest)
      rw [if_pos hkey, if_pos hkey, hothers]
    · obtain ⟨found, hmem, hsame⟩ := hfound
      have hother : found ≠ entry := fun heq ↦ hkey (heq ▸ hsame)
      rw [if_neg hkey, if_neg hkey, ih ⟨found, List.mem_of_ne_of_mem hother hmem, hsame⟩ hrest]

namespace Gathers

/-- An entry has the key and the name of a pair. -/
theorem exists_pair (hgathers : table.Gathers pairs) {entry : Entry} (hentry : entry ∈ table) :
    ∃ pair ∈ pairs, pair.key = entry.key ∧ pair.name = entry.name := by
  obtain ⟨pair, hfirst, hpair⟩ := hgathers.first entry hentry
  exact ⟨pair, hfirst.mem, hpair⟩

variable (hgathers : table.Gathers pairs) (hkeyed : Keyed (pairs ++ [added]))

include hgathers hkeyed

theorem key_eq_iff {entry pair : Entry} (hentry : entry ∈ table) (hpair : pair ∈ pairs ++ [added]) :
    (entry.key = pair.key ↔ entry.name.Equals pair.name) ∧
      (pair.key = entry.key ↔ pair.name.Equals entry.name) := by
  obtain ⟨other, hother, hkey, hname⟩ := hgathers.exists_pair hentry
  have hmem := List.mem_append_left [added] hother
  rw [← hkey, ← hname]
  exact ⟨hkeyed other hmem pair hpair, hkeyed pair hpair other hmem⟩

theorem keys_distinct : table.Pairwise fun entry other ↦ entry.key ≠ other.key := by
  refine hgathers.distinct.imp_of_mem fun {entry other} hentry hother hdistinct hkey ↦ ?_
  obtain ⟨pair, hpair, hsame, hname⟩ := hgathers.exists_pair hother
  rw [← hname] at hdistinct
  exact hdistinct ((hgathers.key_eq_iff hkeyed hentry (List.mem_append_left [added] hpair)).1.mp
    (hkey.trans hsame.symm))

/-- A pair whose name is there gives its value to the entry of that name. -/
theorem insert_of_found (hfound : ∃ entry ∈ table, entry.key = added.key) :
    (table.insert added.key added.name added.value).Gathers (pairs ++ [added]) := by
  have hadded : added ∈ pairs ++ [added] := List.mem_append_right _ (List.mem_singleton_self added)
  have hinsert : table.insert added.key added.name added.value =
      table.map (Entry.renew added.key added.value) :=
    Table.insert_of_found _ _ hfound (hgathers.keys_distinct hkeyed)
  have hfind (key : Key) := find?_insert added.key key added.name added.value table
  rw [hinsert] at hfind ⊢
  constructor
  · simpa only [List.pairwise_map, Entry.name_renew] using hgathers.distinct
  · simp only [List.pairwise_map, Entry.name_renew]
    refine hgathers.ordered.imp fun {entry other} hordered ↦ ?_
    obtain ⟨front, pair, back, rfl, hpair, hfront⟩ := hordered
    exact ⟨front, pair, back ++ [added], by simp, hpair, hfront⟩
  · simp only [List.forall_mem_map, Entry.name_renew, Entry.key_renew]
    intro entry hentry
    obtain ⟨pair, hfirst, hpair⟩ := hgathers.first entry hentry
    exact ⟨pair, hfirst.append [added], hpair⟩
  · simp only [List.forall_mem_map, Entry.name_renew]
    intro entry hentry
    have hiff := (hgathers.key_eq_iff hkeyed hentry hadded).2
    unfold Entry.renew
    by_cases hkey : entry.key = added.key
    · exact ⟨added, .of_last (hiff.mp hkey.symm), by rw [if_pos hkey]⟩
    · obtain ⟨pair, hlast, hvalue⟩ := hgathers.last entry hentry
      refine ⟨pair, hlast.append fun hequal ↦ hkey (hiff.mpr hequal).symm, ?_⟩
      rw [if_neg hkey, hvalue]
  · intro pair hpair
    -- The entry of the pair, found as it was, or now with the value that was added.
    have hentry : ∃ entry ∈ table, entry.name.Equals pair.name ∧
        (added.key = pair.key ∨ table.find? pair.key = some entry.value) := by
      rcases List.mem_append.mp hpair with hold | hnew
      · obtain ⟨entry, hentry, hequal, hvalue⟩ := hgathers.found pair hold
        exact ⟨entry, hentry, hequal, Or.inr hvalue⟩
      · obtain rfl := List.mem_singleton.mp hnew
        obtain ⟨entry, hentry, hkey⟩ := hfound
        exact ⟨entry, hentry, (hgathers.key_eq_iff hkeyed hentry hadded).1.mp hkey, Or.inl rfl⟩
    obtain ⟨entry, hentry, hequal, hvalue⟩ := hentry
    have hsame := (hgathers.key_eq_iff hkeyed hentry hpair).1.mpr hequal
    refine ⟨_, List.mem_map_of_mem hentry, by rwa [Entry.name_renew], ?_⟩
    rw [hfind, Entry.renew, hsame]
    by_cases hkey : added.key = pair.key
    · rw [if_pos hkey, if_pos hkey.symm]
    · rw [if_neg hkey, if_neg (Ne.symm hkey), hvalue.resolve_left hkey]

/-- A pair whose name is new becomes the last entry. -/
theorem insert_of_new (hnew : ∀ entry ∈ table, entry.key ≠ added.key) :
    (table.insert added.key added.name added.value).Gathers (pairs ++ [added]) := by
  have hadded : added ∈ pairs ++ [added] := List.mem_append_right _ (List.mem_singleton_self added)
  have hself : added.name.Equals added.name := (hkeyed added hadded added hadded).mp rfl
  have hnone (pair : Entry) (hpair : pair ∈ pairs) : ¬ pair.name.Equals added.name := by
    intro hequal
    obtain ⟨entry, hentry, hsame, -⟩ := hgathers.found pair hpair
    have hmem := List.mem_append_left [added] hpair
    exact hnew entry hentry (((hgathers.key_eq_iff hkeyed hentry hmem).1.mpr hsame).trans
      ((hkeyed pair hmem added hadded).mpr hequal))
  have hother {entry : Entry} (hentry : entry ∈ table) := hgathers.key_eq_iff hkeyed hentry hadded
  have hinsert : table.insert added.key added.name added.value = table ++ [added] :=
    Table.insert_of_new _ _ hnew
  have hfind (key : Key) := find?_insert added.key key added.name added.value table
  rw [hinsert] at hfind ⊢
  constructor
  · refine List.pairwise_append.mpr ⟨hgathers.distinct, List.pairwise_singleton _ _, ?_⟩
    intro entry hentry last hlast hequal
    obtain rfl := List.mem_singleton.mp hlast
    exact hnew entry hentry ((hother hentry).1.mpr hequal)
  · refine List.pairwise_append.mpr ⟨?_, List.pairwise_singleton _ _, ?_⟩
    · refine hgathers.ordered.imp fun {entry other} hordered ↦ ?_
      obtain ⟨front, pair, back, rfl, hpair, hfront⟩ := hordered
      exact ⟨front, pair, back ++ [added], by simp, hpair, hfront⟩
    · intro entry hentry last hlast
      obtain rfl := List.mem_singleton.mp hlast
      obtain ⟨pair, ⟨front, back, hsplit, hpair, -⟩, -⟩ := hgathers.first entry hentry
      refine ⟨front, pair, back ++ [last], by simp [hsplit], hpair, fun earlier hearlier ↦ ?_⟩
      exact hnone earlier (hsplit ▸ List.mem_append_left _ hearlier)
  · intro entry hentry
    rcases List.mem_append.mp hentry with hold | hlast
    · obtain ⟨pair, hfirst, hpair⟩ := hgathers.first entry hold
      exact ⟨pair, hfirst.append [added], hpair⟩
    · obtain rfl := List.mem_singleton.mp hlast
      exact ⟨entry, .of_last hself hnone, rfl, rfl⟩
  · intro entry hentry
    rcases List.mem_append.mp hentry with hold | hlast
    · obtain ⟨pair, hlast, hvalue⟩ := hgathers.last entry hold
      exact ⟨pair, hlast.append fun hequal ↦ hnew entry hold ((hother hold).2.mpr hequal).symm, hvalue⟩
    · obtain rfl := List.mem_singleton.mp hlast
      exact ⟨entry, .of_last hself, rfl⟩
  · intro pair hpair
    rcases List.mem_append.mp hpair with hold | hlast
    · obtain ⟨entry, hentry, hequal, hvalue⟩ := hgathers.found pair hold
      refine ⟨entry, List.mem_append_left _ hentry, hequal, ?_⟩
      rw [hfind, if_neg fun hkey ↦ hnone pair hold ((hkeyed pair hpair added hadded).mp hkey.symm),
        hvalue]
    · obtain rfl := List.mem_singleton.mp hlast
      exact ⟨pair, List.mem_append_right _ (List.mem_singleton_self pair), hself,
        (hfind pair.key).trans (if_pos rfl)⟩

omit hgathers hkeyed

/-- Inserting pairs one after another gathers them. -/
theorem merge (hkeyed : Keyed pairs) : (Table.merge [] pairs).Gathers pairs := by
  induction pairs using List.reverseRecOn with
  | nil => exact ⟨.nil, .nil, nofun, nofun, nofun⟩
  | append_singleton pairs added ih =>
    have hgathers := ih fun pair hpair other hother ↦
      hkeyed pair (List.mem_append_left _ hpair) other (List.mem_append_left _ hother)
    rw [Table.merge_concat]
    by_cases hfound : ∃ entry ∈ Table.merge [] pairs, entry.key = added.key
    · exact hgathers.insert_of_found hkeyed hfound
    · exact hgathers.insert_of_new hkeyed fun entry hentry hkey ↦ hfound ⟨entry, hentry, hkey⟩

end Gathers

end Table

end Treewalk
