import PeerLending.Address

/-!
# Maps keyed by address

Markets, configurations and positions are kept in maps keyed by address, and every list that is
read off such a map comes in ascending address order. `AddrMap α` is a list of entries whose keys
strictly ascend, and it carries that fact (`ascending`): the empty map has it, and `insert` keeps
it, inserting a new key at its place and replacing the value of a present key in place. So a map
has one entry per key, and two maps with the same entries are the same map (`ext`).

The one view of a map is `get?`; `get?_insert` says what `insert` does to it.
-/

set_option autoImplicit false

namespace PeerLending

/-- Inserts into an ascending list of entries, replacing the value of an equal key. -/
def AddrMap.insertEntry {α : Type} (k : Address) (v : α) :
    List (Address × α) → List (Address × α)
  | [] => [(k, v)]
  | (k', v') :: rest =>
    if k.val < k'.val then (k, v) :: (k', v') :: rest
    else if k.val = k'.val then (k, v) :: rest
    else (k', v') :: insertEntry k v rest

namespace AddrMap

variable {α β : Type}

theorem mem_insertEntry {k : Address} {v : α} {e : Address × α} :
    ∀ {l : List (Address × α)}, e ∈ insertEntry k v l → e = (k, v) ∨ e ∈ l
  | [], h => by simpa [insertEntry] using h
  | (k', v') :: rest, h => by
    unfold insertEntry at h
    split at h
    · simpa using h
    · split at h
      · simp only [List.mem_cons] at h
        rcases h with h | h
        · exact Or.inl h
        · exact Or.inr (List.mem_cons_of_mem _ h)
      · simp only [List.mem_cons] at h
        rcases h with h | h
        · exact Or.inr (h ▸ List.mem_cons_self)
        · rcases mem_insertEntry h with h | h
          · exact Or.inl h
          · exact Or.inr (List.mem_cons_of_mem _ h)

/-- Inserting keeps the keys of a list strictly ascending. -/
theorem pairwise_insertEntry (k : Address) (v : α) :
    ∀ {l : List (Address × α)}, l.Pairwise (fun a b => a.1.val < b.1.val) →
      (insertEntry k v l).Pairwise fun a b => a.1.val < b.1.val
  | [], _ => List.pairwise_singleton _ _
  | (k', v') :: rest, h => by
    rw [List.pairwise_cons] at h
    unfold insertEntry
    split
    · -- the key goes first, below every key of the list
      rename_i hlt
      refine List.pairwise_cons.2 ⟨fun e he => ?_, List.pairwise_cons.2 h⟩
      rcases List.mem_cons.1 he with rfl | he
      · exact hlt
      · exact Nat.lt_trans hlt (h.1 e he)
    · split
      · rename_i heq
        exact List.pairwise_cons.2 ⟨fun e he => heq ▸ h.1 e he, h.2⟩
      · rename_i hlt hne
        refine List.pairwise_cons.2 ⟨fun e he => ?_, pairwise_insertEntry k v h.2⟩
        rcases mem_insertEntry he with rfl | he
        · show k'.val < k.val
          omega
        · exact h.1 e he

end AddrMap

/-- A map from addresses to values: its entries, their keys strictly ascending. -/
structure AddrMap (α : Type) where
  /-- The entries, in ascending order of addresses. -/
  entries : List (Address × α)
  /-- Each key is below every later one. -/
  ascending : entries.Pairwise fun a b => a.1.val < b.1.val

namespace AddrMap

variable {α β : Type}

/-- Two maps with the same entries are the same map. -/
@[ext] theorem ext : ∀ {m₁ m₂ : AddrMap α}, m₁.entries = m₂.entries → m₁ = m₂
  | ⟨_, _⟩, ⟨_, _⟩, rfl => rfl

/-- The map with no entries. -/
def empty : AddrMap α := ⟨[], .nil⟩

instance : Inhabited (AddrMap α) := ⟨empty⟩

/-- The map with `k` bound to `v`. -/
def insert (m : AddrMap α) (k : Address) (v : α) : AddrMap α :=
  ⟨insertEntry k v m.entries, pairwise_insertEntry k v m.ascending⟩

/-- The value bound to `k` in a list of entries: the first entry with that key. -/
def lookup (k : Address) : List (Address × α) → Option α
  | [] => none
  | (k', v) :: rest => if k = k' then some v else lookup k rest

/-- The value bound to `k`, if any. -/
def get? (m : AddrMap α) (k : Address) : Option α := lookup k m.entries

/-- Whether `k` is bound. -/
def contains (m : AddrMap α) (k : Address) : Bool := (m.get? k).isSome

/-- The keys in ascending order. -/
def keys (m : AddrMap α) : List Address := m.entries.map (·.1)

/-- The values in ascending order of their keys. -/
def values (m : AddrMap α) : List α := m.entries.map (·.2)

/-- The number of entries. -/
def size (m : AddrMap α) : Nat := m.entries.length

/-- Every value changed by `f`, keys kept. -/
def mapValues (f : Address → α → β) (m : AddrMap α) : AddrMap β :=
  ⟨m.entries.map fun (k, v) => (k, f k v),
    List.pairwise_map.2 (m.ascending.imp fun {a b} h => by
      obtain ⟨_, _⟩ := a
      obtain ⟨_, _⟩ := b
      exact h)⟩

/-- The map of a list of bindings, a later binding of a key replacing an earlier one. -/
def ofList (bindings : List (Address × α)) : AddrMap α :=
  bindings.foldl (fun m (k, v) => m.insert k v) empty

theorem lookup_insertEntry (k k' : Address) (v : α) (l : List (Address × α)) :
    lookup k' (insertEntry k v l) = if k' = k then some v else lookup k' l := by
  induction l with
  | nil => simp [insertEntry, lookup]
  | cons e rest ih =>
    obtain ⟨k'', v''⟩ := e
    have hval : ∀ a b : Address, a.val = b.val → a = b := by
      intro a b hab; cases a; cases b; simp_all
    unfold insertEntry
    by_cases h1 : k.val < k''.val
    · rw [if_pos h1]
      by_cases h : k' = k
      · simp [lookup, h]
      · simp [lookup, h]
    · rw [if_neg h1]
      by_cases h2 : k.val = k''.val
      · have hk : k = k'' := hval _ _ h2
        subst hk
        rw [if_pos rfl]
        by_cases h : k' = k
        · simp [lookup, h]
        · simp [lookup, h]
      · rw [if_neg h2]
        have hne : k'' ≠ k := fun e => h2 (e ▸ rfl)
        by_cases h : k' = k''
        · subst h; simp [lookup, hne]
        · simp only [lookup, h, if_false, ih]

/-- Inserting binds the key and leaves every other key as it was. -/
theorem get?_insert (m : AddrMap α) (k k' : Address) (v : α) :
    (m.insert k v).get? k' = if k' = k then some v else m.get? k' :=
  lookup_insertEntry k k' v m.entries

end AddrMap

end PeerLending
