import Cataclysm.Lib.Acyclic
import Cataclysm.Pools.PoolMgr

/-!
# Pools of pools are loaded without cycles

A row of `pool_pool` puts a child into the group of its mother. Beside the groups a search map has
the mother of each child, and the loader walks along it from every pool below the last: the link
that closes a circle is taken out of the group and of the map.

The map has one mother for each child, the groups may have several. So a cycle that is left runs
over a child with more than one row, and there is none when every child is listed once, as the
primary key of the table demands.

## Implementation notes

The groups and the map are functions of the pool. A walk marks a new pool with every turn, so it
ends within as many turns as there are rows.
-/

namespace Cataclysm.Pools
open Relation

/-- A row of the table of pools in pools. -/
structure PoolRow where
  childPoolId : Nat
  motherPoolId : Nat
  chance : ℚ
  deriving DecidableEq

namespace PoolGroup

def addEntry (group : PoolGroup) (guid : Nat) (chance : ℚ) (maxEntries : Nat) : PoolGroup :=
  if chance ≠ 0 ∧ maxEntries = 1 then
    { group with explicitlyChanced := group.explicitlyChanced ++ [guid] }
  else { group with equalChanced := group.equalChanced ++ [guid] }

def removeOneRelation (group : PoolGroup) (childPoolId : Nat) : PoolGroup where
  explicitlyChanced := group.explicitlyChanced.erase childPoolId
  equalChanced := group.equalChanced.erase childPoolId

end PoolGroup

/-- `mPoolPoolGroups` and `mPoolSearchMap`. -/
structure MotherTables where
  poolGroups : Nat → PoolGroup
  searchMap : Nat → Option Nat

namespace MotherTables

def empty : MotherTables := ⟨fun _ => ⟨[], []⟩, fun _ => none⟩

def addRow (tables : MotherTables) (maxLimit : Nat → Nat) (row : PoolRow) : MotherTables where
  poolGroups := Function.update tables.poolGroups row.motherPoolId
    ((tables.poolGroups row.motherPoolId).addEntry row.childPoolId row.chance
      (maxLimit row.motherPoolId))
  searchMap := Function.update tables.searchMap row.childPoolId
    (some ((tables.searchMap row.childPoolId).getD row.motherPoolId))

@[simp] theorem searchMap_addRow (tables : MotherTables) (maxLimit : Nat → Nat) (row : PoolRow)
    (pool : Nat) :
    (tables.addRow maxLimit row).searchMap pool =
      if pool = row.childPoolId then
        some ((tables.searchMap row.childPoolId).getD row.motherPoolId)
      else tables.searchMap pool :=
  Function.update_apply tables.searchMap row.childPoolId _ pool

@[simp] theorem poolGroups_addRow (tables : MotherTables) (maxLimit : Nat → Nat) (row : PoolRow)
    (pool : Nat) :
    (tables.addRow maxLimit row).poolGroups pool =
      if pool = row.motherPoolId then
        (tables.poolGroups row.motherPoolId).addEntry row.childPoolId row.chance
          (maxLimit row.motherPoolId)
      else tables.poolGroups pool :=
  Function.update_apply tables.poolGroups row.motherPoolId _ pool

/-- The pass over the rows: those that are out of range, include themselves or have an invalid
chance are skipped. -/
def loadRows (maxPoolId : Nat) (maxLimit : Nat → Nat) :
    List PoolRow → MotherTables → MotherTables
  | [], tables => tables
  | row :: rest, tables =>
    if maxPoolId < row.motherPoolId then loadRows maxPoolId maxLimit rest tables
    else if maxPoolId < row.childPoolId then loadRows maxPoolId maxLimit rest tables
    else if row.motherPoolId = row.childPoolId then loadRows maxPoolId maxLimit rest tables
    else if row.chance < 0 ∨ 100 < row.chance then loadRows maxPoolId maxLimit rest tables
    else loadRows maxPoolId maxLimit rest (tables.addRow maxLimit row)

/-- The walk from a pool along the mothers: the link that leads back to a checked pool. -/
def findCircle (searchMap : Nat → Option Nat) : Nat → Finset Nat → Nat → Option (Nat × Nat)
  | 0, _, _ => none
  | turns + 1, checkedPools, pool =>
    match searchMap pool with
    | none => none
    | some mother =>
      let checkedPools := insert pool checkedPools
      if mother ∈ checkedPools then some (pool, mother)
      else findCircle searchMap turns checkedPools mother

def removeLink (tables : MotherTables) (child mother : Nat) : MotherTables where
  poolGroups := Function.update tables.poolGroups mother
    ((tables.poolGroups mother).removeOneRelation child)
  searchMap := Function.update tables.searchMap child none

@[simp] theorem searchMap_removeLink (tables : MotherTables) (child mother pool : Nat) :
    (tables.removeLink child mother).searchMap pool =
      if pool = child then none else tables.searchMap pool :=
  Function.update_apply tables.searchMap child none pool

@[simp] theorem poolGroups_removeLink (tables : MotherTables) (child mother pool : Nat) :
    (tables.removeLink child mother).poolGroups pool =
      if pool = mother then (tables.poolGroups mother).removeOneRelation child
      else tables.poolGroups pool :=
  Function.update_apply tables.poolGroups mother _ pool

def checkPool (turns : Nat) (tables : MotherTables) (pool : Nat) : MotherTables :=
  match findCircle tables.searchMap turns ∅ pool with
  | none => tables
  | some (child, mother) => tables.removeLink child mother

/-- `LoadFromDB` for pools of pools, with its check for circular references. -/
def loadFromDB (maxPoolId : Nat) (maxLimit : Nat → Nat) (rows : List PoolRow) : MotherTables :=
  (List.range maxPoolId).foldl (checkPool (rows.length + 1))
    (loadRows maxPoolId maxLimit rows empty)

/-- The child is in the group of its mother. -/
def Includes (tables : MotherTables) (mother child : Nat) : Prop :=
  child ∈ (tables.poolGroups mother).guids

instance (tables : MotherTables) (mother child : Nat) : Decidable (tables.Includes mother child) :=
  inferInstanceAs (Decidable (child ∈ (tables.poolGroups mother).guids))

/-! ### The walk -/

section Walk

variable {f : Nat → Option Nat} {turns pool : Nat} {checkedPools keys : Finset Nat}

/-- A link that the walk finds is one that the pool leads to. -/
theorem findCircle_some {child mother : Nat}
    (h : findCircle f turns checkedPools pool = some (child, mother)) :
    Next f child mother ∧ ReflTransGen (Next f) pool child := by
  induction turns generalizing checkedPools pool with
  | zero => exact absurd h.symm (Option.some_ne_none _)
  | succ turns ih =>
    rw [findCircle] at h
    cases hmother : f pool with
    | none =>
      rw [hmother] at h
      exact absurd h.symm (Option.some_ne_none _)
    | some next =>
      rw [hmother] at h
      dsimp only at h
      split_ifs at h with hmem
      · obtain ⟨rfl, rfl⟩ := Prod.mk.inj (Option.some.inj h)
        exact ⟨hmother, ReflTransGen.refl⟩
      · obtain ⟨hlink, hreach⟩ := ih h
        exact ⟨hlink, ReflTransGen.head hmother hreach⟩

/-- A walk with turns enough that finds no link comes to a pool without a mother. -/
theorem findCircle_none (hkeys : ∀ a b, Next f a b → a ∈ keys) (hsub : checkedPools ⊆ keys)
    (hturns : keys.card < checkedPools.card + turns) (hnew : pool ∉ checkedPools)
    (h : findCircle f turns checkedPools pool = none) :
    ∃ last, ReflTransGen (Next f) pool last ∧ f last = none := by
  induction turns generalizing checkedPools pool with
  | zero => exact absurd (Finset.card_le_card hsub) (Nat.not_le.mpr hturns)
  | succ turns ih =>
    cases hmother : f pool with
    | none => exact ⟨pool, ReflTransGen.refl, hmother⟩
    | some next =>
      rw [findCircle, hmother] at h
      dsimp only at h
      split_ifs at h with hmem
      have hsub' : insert pool checkedPools ⊆ keys :=
        Finset.insert_subset (hkeys pool next hmother) hsub
      have hcard : keys.card < (insert pool checkedPools).card + turns := by
        rw [Finset.card_insert_of_notMem hnew]
        omega
      obtain ⟨last, hreach, hlast⟩ := ih hsub' hcard hmem h
      exact ⟨last, ReflTransGen.head hmother hreach, hlast⟩

end Walk

/-! ### The pass over the pools -/

/-- The links of the search map. -/
def Leads (tables : MotherTables) : Nat → Nat → Prop := Next tables.searchMap

section Check

variable {tables : MotherTables} {turns pool : Nat} {keys : Finset Nat}

theorem checkPool_cases (tables : MotherTables) (turns pool : Nat) :
    (findCircle tables.searchMap turns ∅ pool = none ∧ checkPool turns tables pool = tables) ∨
      ∃ child mother, findCircle tables.searchMap turns ∅ pool = some (child, mother) ∧
        checkPool turns tables pool = tables.removeLink child mother := by
  rw [checkPool]
  cases hfound : findCircle tables.searchMap turns ∅ pool with
  | none => exact Or.inl ⟨rfl, rfl⟩
  | some link => exact Or.inr ⟨link.1, link.2, rfl, rfl⟩

theorem leads_removeLink {child mother a b : Nat}
    (h : (tables.removeLink child mother).Leads a b) : tables.Leads a b := by
  rw [Leads, Next, searchMap_removeLink] at h
  split_ifs at h
  exact h

theorem leads_checkPool {a b : Nat} (h : (checkPool turns tables pool).Leads a b) :
    tables.Leads a b := by
  obtain ⟨-, heq⟩ | ⟨child, mother, -, heq⟩ := checkPool_cases tables turns pool
  · rwa [heq] at h
  · rw [heq] at h
    exact leads_removeLink h

/-- The pool that was checked lies on no cycle of the search map. -/
theorem checkPool_breaks (hkeys : ∀ a b, tables.Leads a b → a ∈ keys)
    (hturns : keys.card < turns) :
    ¬ TransGen (checkPool turns tables pool).Leads pool pool := by
  intro hcycle
  obtain ⟨hfound, heq⟩ | ⟨child, mother, hfound, heq⟩ := checkPool_cases tables turns pool
  · obtain ⟨last, hreach, hlast⟩ := findCircle_none hkeys (Finset.empty_subset keys)
      (by rwa [Finset.card_empty, Nat.zero_add]) (Finset.notMem_empty pool) hfound
    rw [heq] at hcycle
    exact Next.ne_none_of_reaches (fun _ _ h => h) hcycle hreach hlast
  · obtain ⟨-, hreach⟩ := findCircle_some hfound
    rw [heq] at hcycle
    apply Next.ne_none_of_reaches (fun _ _ => leads_removeLink) hcycle hreach
    rw [searchMap_removeLink, if_pos rfl]

/-- No pool that was checked lies on a cycle, whatever is checked before and after it. -/
theorem foldl_checkPool {pools : List Nat} (hkeys : ∀ a b, tables.Leads a b → a ∈ keys)
    (hturns : keys.card < turns) :
    (∀ a b, (pools.foldl (checkPool turns) tables).Leads a b → tables.Leads a b) ∧
      ∀ pool ∈ pools, ¬ TransGen (pools.foldl (checkPool turns) tables).Leads pool pool := by
  induction pools generalizing tables with
  | nil => exact ⟨fun _ _ h => h, fun _ hmem => absurd hmem List.not_mem_nil⟩
  | cons first rest ih =>
    obtain ⟨hpart, hbroken⟩ := @ih (checkPool turns tables first)
      fun a b h => hkeys a b (leads_checkPool h)
    refine ⟨fun a b h => leads_checkPool (hpart a b h), fun pool hmem hcycle => ?_⟩
    obtain rfl | hrest := List.mem_cons.mp hmem
    · exact checkPool_breaks hkeys hturns (TransGen.mono hpart _ _ hcycle)
    · exact hbroken pool hrest hcycle

end Check

/-! ### The pass over the rows -/

variable {tables : MotherTables} {links : List (Nat × Nat)}

/-- The row is not skipped. -/
def Accepted (maxPoolId : Nat) (row : PoolRow) : Prop :=
  row.motherPoolId ≤ maxPoolId ∧ row.childPoolId ≤ maxPoolId ∧
    row.motherPoolId ≠ row.childPoolId ∧ 0 ≤ row.chance ∧ row.chance ≤ 100

instance (maxPoolId : Nat) : DecidablePred (Accepted maxPoolId) :=
  fun row => inferInstanceAs (Decidable (row.motherPoolId ≤ maxPoolId ∧
    row.childPoolId ≤ maxPoolId ∧ row.motherPoolId ≠ row.childPoolId ∧
    0 ≤ row.chance ∧ row.chance ≤ 100))

/-- A child with its mother. -/
def linkOf (row : PoolRow) : Nat × Nat := (row.childPoolId, row.motherPoolId)

def acceptedLinks (maxPoolId : Nat) (rows : List PoolRow) : List (Nat × Nat) :=
  (rows.filter (Accepted maxPoolId)).map linkOf

/-- What the loader keeps of a list of links: all in the groups, the first of a child in the map. -/
structure Represents (tables : MotherTables) (links : List (Nat × Nat)) : Prop where
  counts : ∀ mother child,
    (tables.poolGroups mother).guids.count child = links.count (child, mother)
  searches : ∀ child,
    tables.searchMap child = (links.find? fun link => link.1 == child).map Prod.snd

theorem represents_empty : Represents empty [] := ⟨fun _ _ => rfl, fun _ => rfl⟩

theorem count_addEntry (group : PoolGroup) (guid maxEntries other : Nat) (chance : ℚ) :
    (group.addEntry guid chance maxEntries).guids.count other =
      group.guids.count other + if guid = other then 1 else 0 := by
  rw [PoolGroup.addEntry]
  split_ifs with hexplicit heq heq
  all_goals
    simp only [PoolGroup.guids, List.count_append, List.count_singleton, beq_iff_eq, heq, if_true,
      if_false]
    omega

theorem Represents.addRow (h : Represents tables links) (maxLimit : Nat → Nat) (row : PoolRow) :
    Represents (tables.addRow maxLimit row) (links ++ [linkOf row]) := by
  constructor
  · intro mother child
    rw [List.count_append, ← h.counts, poolGroups_addRow]
    split_ifs with hmother
    · subst hmother
      rw [count_addEntry]
      simp [linkOf, List.count_singleton]
    · simp [linkOf, Ne.symm hmother]
  · intro child
    rw [List.find?_append, searchMap_addRow, h.searches row.childPoolId]
    split_ifs with hchild
    · subst hchild
      cases hfound : links.find? fun link => link.1 == row.childPoolId with
      | none => simp [linkOf]
      | some link => simp
    · rw [h.searches child]
      simp [linkOf, Ne.symm hchild]

theorem loadRows_cons (maxPoolId : Nat) (maxLimit : Nat → Nat) (row : PoolRow)
    (rest : List PoolRow) (tables : MotherTables) :
    loadRows maxPoolId maxLimit (row :: rest) tables =
      loadRows maxPoolId maxLimit rest
        (if Accepted maxPoolId row then tables.addRow maxLimit row else tables) := by
  rw [loadRows]
  split_ifs with hmother hchild hself hchance haccepted haccepted
  any_goals rfl
  all_goals
    grind [Accepted]

theorem represents_loadRows {maxPoolId : Nat} {maxLimit : Nat → Nat} {rows : List PoolRow}
    (h : Represents tables links) :
    Represents (loadRows maxPoolId maxLimit rows tables)
      (links ++ acceptedLinks maxPoolId rows) := by
  induction rows generalizing tables links with
  | nil => rwa [acceptedLinks, List.filter_nil, List.map_nil, List.append_nil]
  | cons row rest ih =>
    rw [loadRows_cons]
    split_ifs with haccepted
    · have hlinks : acceptedLinks maxPoolId (row :: rest) =
          linkOf row :: acceptedLinks maxPoolId rest := by
        simp [acceptedLinks, haccepted]
      rw [hlinks, List.append_cons]
      exact ih (h.addRow maxLimit row)
    · have hlinks : acceptedLinks maxPoolId (row :: rest) = acceptedLinks maxPoolId rest := by
        simp [acceptedLinks, haccepted]
      rw [hlinks]
      exact ih h

/-! ### Children that are listed once -/

variable {child mother : Nat}

/-- The child has one row that is not skipped. -/
def ListedOnce (maxPoolId : Nat) (rows : List PoolRow) (child : Nat) : Prop :=
  (acceptedLinks maxPoolId rows).countP (fun link => link.1 == child) = 1

/-- A child that is listed once stands in a group at most once, and then the map has its mother. -/
structure Kept (once : Nat → Prop) (tables : MotherTables) : Prop where
  mapped : ∀ {mother child}, once child → tables.Includes mother child →
    tables.Leads child mother
  single : ∀ {mother child}, once child → (tables.poolGroups mother).guids.count child ≤ 1

theorem find?_of_countP (honce : links.countP (fun link => link.1 == child) = 1)
    (hmem : (child, mother) ∈ links) :
    links.find? (fun link => link.1 == child) = some (child, mother) := by
  rw [List.countP_eq_length_filter, List.length_eq_one_iff] at honce
  obtain ⟨link, hlink⟩ := honce
  have hin : (child, mother) ∈ links.filter fun link => link.1 == child :=
    List.mem_filter.mpr ⟨hmem, beq_self_eq_true child⟩
  rw [hlink, List.mem_singleton] at hin
  rw [← List.head?_filter, hlink, hin, List.head?_cons]

theorem Represents.kept {maxPoolId : Nat} {rows : List PoolRow}
    (h : Represents tables (acceptedLinks maxPoolId rows)) :
    Kept (ListedOnce maxPoolId rows) tables := by
  constructor
  · intro mother child honce hin
    have hmem : (child, mother) ∈ acceptedLinks maxPoolId rows := by
      rw [← List.count_pos_iff, ← h.counts, List.count_pos_iff]
      exact hin
    rw [Leads, Next, h.searches, find?_of_countP honce hmem, Option.map_some]
  · intro mother child honce
    calc (tables.poolGroups mother).guids.count child
        = (acceptedLinks maxPoolId rows).count (child, mother) := h.counts mother child
      _ ≤ (acceptedLinks maxPoolId rows).countP (fun link => link.1 == child) := by
          apply List.countP_mono_left
          intro link _ heq
          rw [beq_iff_eq.mp heq]
          exact beq_self_eq_true child
      _ ≤ 1 := honce.le

theorem count_removeOneRelation (group : PoolGroup) (child other : Nat) :
    (group.removeOneRelation child).guids.count other ≤ group.guids.count other := by
  rw [PoolGroup.removeOneRelation, PoolGroup.guids, PoolGroup.guids, List.count_append,
    List.count_append]
  exact Nat.add_le_add (List.erase_sublist.count_le other) (List.erase_sublist.count_le other)

/-- A child that stands in a group once is taken out of it. -/
theorem notMem_removeOneRelation {group : PoolGroup} (h : group.guids.count child ≤ 1) :
    child ∉ (group.removeOneRelation child).guids := by
  rw [PoolGroup.guids, List.count_append] at h
  rw [← List.count_eq_zero, PoolGroup.removeOneRelation, PoolGroup.guids, List.count_append,
    List.count_erase_self, List.count_erase_self]
  omega

theorem count_removeLink (tables : MotherTables) (child mother pool other : Nat) :
    ((tables.removeLink child mother).poolGroups pool).guids.count other ≤
      (tables.poolGroups pool).guids.count other := by
  rw [poolGroups_removeLink]
  split_ifs with hpool
  · rw [hpool]
    exact count_removeOneRelation (tables.poolGroups mother) child other
  · exact le_rfl

theorem includes_removeLink {pool other : Nat}
    (h : (tables.removeLink child mother).Includes pool other) : tables.Includes pool other :=
  List.count_pos_iff.mp
    ((List.count_pos_iff.mpr h).trans_le (count_removeLink tables child mother pool other))

theorem includes_foldl_checkPool {turns : Nat} {pools : List Nat}
    (h : (pools.foldl (checkPool turns) tables).Includes mother child) :
    tables.Includes mother child := by
  induction pools generalizing tables with
  | nil => exact h
  | cons first rest ih =>
    have hfirst := ih h
    obtain ⟨-, heq⟩ | ⟨child', mother', -, heq⟩ := checkPool_cases tables turns first
    · rwa [heq] at hfirst
    · rw [heq] at hfirst
      exact includes_removeLink hfirst

theorem Kept.removeLink {once : Nat → Prop} (h : Kept once tables)
    (hlink : tables.Leads child mother) : Kept once (tables.removeLink child mother) := by
  constructor
  · intro pool other honce hin
    have hbefore : tables.Leads other pool := h.mapped honce (includes_removeLink hin)
    rw [Leads, Next, searchMap_removeLink, if_neg]
    · exact hbefore
    · rintro rfl
      obtain rfl : mother = pool := Option.some.inj (hlink.symm.trans hbefore)
      rw [Includes, poolGroups_removeLink, if_pos rfl] at hin
      exact notMem_removeOneRelation (h.single honce) hin
  · intro pool other honce
    exact (count_removeLink tables child mother pool other).trans (h.single honce)

theorem Kept.foldl_checkPool {once : Nat → Prop} {turns : Nat} {pools : List Nat}
    (h : Kept once tables) : Kept once (pools.foldl (checkPool turns) tables) := by
  induction pools generalizing tables with
  | nil => exact h
  | cons first rest ih =>
    apply ih
    obtain ⟨-, heq⟩ | ⟨child, mother, hfound, heq⟩ := checkPool_cases tables turns first
    · rwa [heq]
    · rw [heq]
      exact h.removeLink (findCircle_some hfound).1

/-! ### No cycle is left -/

section Loaded

variable (maxPoolId : Nat) (maxLimit : Nat → Nat) (rows : List PoolRow)

theorem represents_loaded : Represents (loadRows maxPoolId maxLimit rows empty)
    (acceptedLinks maxPoolId rows) := by
  have h : Represents (loadRows maxPoolId maxLimit rows empty)
      ([] ++ acceptedLinks maxPoolId rows) := represents_loadRows represents_empty
  rwa [List.nil_append] at h

theorem mem_acceptedLinks :
    (child, mother) ∈ acceptedLinks maxPoolId rows ↔
      ∃ row ∈ rows, Accepted maxPoolId row ∧ linkOf row = (child, mother) := by
  simp [acceptedLinks, and_assoc]

variable {maxPoolId maxLimit rows} in
/-- The links of the map are links of accepted rows. -/
theorem accepted_of_leads (h : (loadRows maxPoolId maxLimit rows empty).Leads child mother) :
    (child, mother) ∈ acceptedLinks maxPoolId rows := by
  rw [Leads, Next, (represents_loaded maxPoolId maxLimit rows).searches,
    Option.map_eq_some_iff] at h
  obtain ⟨link, hfound, hmother⟩ := h
  have hchild := List.find?_some hfound
  rw [beq_iff_eq] at hchild
  rw [← hchild, ← hmother]
  exact List.mem_of_find?_eq_some hfound

/-- The children of the rows. -/
def children : Finset Nat := (rows.map PoolRow.childPoolId).toFinset

variable {maxPoolId rows} in
theorem mem_children (h : (child, mother) ∈ acceptedLinks maxPoolId rows) :
    child ∈ children rows := by
  obtain ⟨row, hrow, -, hlink⟩ := (mem_acceptedLinks maxPoolId rows).mp h
  rw [children, List.mem_toFinset, List.mem_map]
  exact ⟨row, hrow, congrArg Prod.fst hlink⟩

/-- After the pass no walk along the mothers comes back. -/
theorem acyclic_leads : Acyclic (loadFromDB maxPoolId maxLimit rows).Leads := by
  have hcard : (children rows).card < rows.length + 1 := by
    calc (children rows).card ≤ (rows.map PoolRow.childPoolId).length :=
          List.toFinset_card_le _
      _ = rows.length := List.length_map _
      _ < rows.length + 1 := Nat.lt_succ_self _
  have hkeys : ∀ a b, (loadRows maxPoolId maxLimit rows empty).Leads a b → a ∈ children rows :=
    fun _ _ h => mem_children (accepted_of_leads h)
  obtain ⟨hpart, hbroken⟩ := foldl_checkPool hkeys hcard
  intro pool hcycle
  obtain ⟨mother, hlink, hback⟩ := TransGen.head'_iff.mp hcycle
  obtain ⟨row, -, ⟨hmother, hchild, hne, -⟩, heq⟩ :=
    (mem_acceptedLinks maxPoolId rows).mp (accepted_of_leads (hpart pool mother hlink))
  obtain ⟨rfl, rfl⟩ := Prod.mk.inj heq
  -- of the two pools of a link one is below the last, so the pass began a walk there
  obtain hlt | hlt := Nat.lt_or_ge row.childPoolId maxPoolId
  · exact hbroken row.childPoolId (List.mem_range.mpr hlt) hcycle
  · exact hbroken row.motherPoolId (List.mem_range.mpr (by omega)) (TransGen.tail' hback hlink)

variable {maxPoolId maxLimit rows} in
theorem accepted_of_includes (h : (loadFromDB maxPoolId maxLimit rows).Includes mother child) :
    (child, mother) ∈ acceptedLinks maxPoolId rows := by
  rw [← List.count_pos_iff, ← (represents_loaded maxPoolId maxLimit rows).counts,
    List.count_pos_iff]
  exact includes_foldl_checkPool h

variable {maxPoolId rows} in
theorem listedOnce_of_nodup (hnodup : (rows.map PoolRow.childPoolId).Nodup)
    (h : (child, mother) ∈ acceptedLinks maxPoolId rows) : ListedOnce maxPoolId rows child := by
  have hfirst : (acceptedLinks maxPoolId rows).map Prod.fst =
      (rows.filter (Accepted maxPoolId)).map PoolRow.childPoolId := by
    rw [acceptedLinks, List.map_map]
    rfl
  have hnodup' : ((acceptedLinks maxPoolId rows).map Prod.fst).Nodup := by
    rw [hfirst]
    exact hnodup.sublist (List.filter_sublist.map PoolRow.childPoolId)
  have hcount := List.count_eq_one_of_mem hnodup' (List.mem_map_of_mem h)
  rwa [List.count_eq_countP, List.countP_map] at hcount

/-- Every cycle that the pass leaves runs over a child that is listed more than once. When no child
is, nothing is left of the cycles, and the recursion from a mother to her children ends. -/
theorem nesting_acyclic :
    (Acyclic fun mother child => (loadFromDB maxPoolId maxLimit rows).Includes mother child ∧
      ListedOnce maxPoolId rows child) ∧
    ((rows.map PoolRow.childPoolId).Nodup →
      Acyclic (loadFromDB maxPoolId maxLimit rows).Includes ∧
        ∃ rank : Nat → Nat, ∀ mother child,
          (loadFromDB maxPoolId maxLimit rows).Includes mother child → rank child < rank mother) := by
  have hcycles : Acyclic fun mother child =>
      (loadFromDB maxPoolId maxLimit rows).Includes mother child ∧
        ListedOnce maxPoolId rows child := by
    apply (acyclic_leads maxPoolId maxLimit rows).swap.mono
    intro mother child ⟨hin, honce⟩
    exact (represents_loaded maxPoolId maxLimit rows).kept.foldl_checkPool.mapped honce hin
  refine ⟨hcycles, fun hnodup => ?_⟩
  have hacyclic : Acyclic (loadFromDB maxPoolId maxLimit rows).Includes :=
    hcycles.mono fun mother child hin =>
      ⟨hin, listedOnce_of_nodup hnodup (accepted_of_includes hin)⟩
  exact ⟨hacyclic, hacyclic.exists_rank (children rows) fun mother child hin =>
    mem_children (accepted_of_includes hin)⟩

/-- The children of three rows are different. -/
theorem nesting_acyclic_threeRows :
    Acyclic (loadFromDB 3 (fun _ => 1) [⟨1, 2, 0⟩, ⟨2, 3, 0⟩, ⟨3, 1, 0⟩]).Includes :=
  ((nesting_acyclic 3 (fun _ => 1) [⟨1, 2, 0⟩, ⟨2, 3, 0⟩, ⟨3, 1, 0⟩]).2 (by decide)).1

/-- The second mother of a pool is not in the map, so the cycle through her is left. -/
theorem secondMother_keepsCycle :
    ¬ Acyclic (loadFromDB 3 (fun _ => 1) [⟨1, 2, 0⟩, ⟨1, 3, 0⟩, ⟨3, 1, 0⟩]).Includes := by
  intro h
  apply h 1
  apply TransGen.tail (b := 3)
  · exact TransGen.single (by decide)
  · decide

end Loaded

end MotherTables

end Cataclysm.Pools
