import Cataclysm.Lib.Runs
import Cataclysm.Pools.PoolMgr

/-!
# The counts of the pools are right

The count of a pool that is at the top or active is the number of its active members, and this
number keeps to the limit. A call changes nothing in pools of a greater rank, so the loop of a pool
can spawn and despawn its sub-pools without losing its own count. While a trigger waits for its
replacement the pool may have one member more.

A pool with quests is different: the count takes in its quests, which are counted anew with every
spawn.
-/

namespace Cataclysm.Pools

variable {tables : PoolTables} {draws : Nat → Draw} {s s' s'' : ActivePoolData}
  {bound : Nat → Nat} {kind : PoolKind} {guid poolId : Nat}

/-! ### Members -/

variable {member : PoolKind × Nat}

/-- The creatures, gameobjects and sub-pools of a pool. -/
def PoolTables.members (tables : PoolTables) (poolId : Nat) : Finset (PoolKind × Nat) :=
  ([PoolKind.creature, .gameobject, .pool].flatMap fun kind =>
    (tables.group kind poolId).guids.map (Prod.mk kind)).toFinset

/-- No creature, gameobject or sub-pool is in two pools. -/
def PoolTables.AtMostOnePool (tables : PoolTables) : Prop :=
  ∀ {kind guid poolId other}, kind ≠ .quest → guid ∈ (tables.group kind poolId).guids →
    guid ∈ (tables.group kind other).guids → poolId = other

def PoolTables.WithoutQuests (tables : PoolTables) (poolId : Nat) : Prop :=
  (tables.group .quest poolId).isEmpty = true

def ActivePoolData.isActive (s : ActivePoolData) (member : PoolKind × Nat) : Bool :=
  s.isActiveObject member.1 member.2

def PoolTables.activeMembers (tables : PoolTables) (s : ActivePoolData) (poolId : Nat) : Nat :=
  ((tables.members poolId).filter fun member => s.isActive member = true).card

/-- The pool is at the top, or it is an active sub-pool. -/
def PoolTables.Open (tables : PoolTables) (s : ActivePoolData) (poolId : Nat) : Prop :=
  tables.TopLevel poolId ∨ s.isActive (.pool, poolId) = true

/-- The counts of open pools without quests are the numbers of their active members, which keep to a
bound, and the members of a sub-pool are active only when the sub-pool is. -/
structure PoolTables.Accounted (tables : PoolTables) (bound : Nat → Nat) (s : ActivePoolData) :
    Prop where
  counts : ∀ {poolId}, tables.Open s poolId → tables.WithoutQuests poolId →
    s.getActiveObjectCount poolId = tables.activeMembers s poolId
  limits : ∀ {poolId}, tables.Open s poolId → tables.WithoutQuests poolId →
    tables.activeMembers s poolId ≤ bound poolId
  nested : ∀ {poolId}, ¬ tables.TopLevel poolId → ∀ {member}, member ∈ tables.members poolId →
    s.isActive member = true → s.isActive (.pool, poolId) = true

theorem mem_members : (kind, guid) ∈ tables.members poolId ↔
    kind ≠ .quest ∧ guid ∈ (tables.group kind poolId).guids := by
  rw [PoolTables.members, List.mem_toFinset, List.mem_flatMap]
  constructor
  · rintro ⟨other, hother, hmem⟩
    obtain ⟨found, hfound, heq⟩ := List.mem_map.mp hmem
    cases heq
    refine ⟨?_, hfound⟩
    rintro rfl
    simp at hother
  · rintro ⟨hkind, hmem⟩
    refine ⟨kind, ?_, List.mem_map_of_mem hmem⟩
    cases kind with
    | quest => exact absurd rfl hkind
    | _ => simp

theorem members_unique (hone : tables.AtMostOnePool) {other : Nat}
    (h : member ∈ tables.members poolId) (h' : member ∈ tables.members other) : poolId = other := by
  obtain ⟨kind, guid⟩ := member
  rw [mem_members] at h h'
  exact hone h.1 h.2 h'.2

theorem rank_lt_of_mem (h : (.pool, guid) ∈ tables.members poolId) :
    tables.rank guid < tables.rank poolId :=
  tables.rank_lt (mem_members.mp h).2

theorem not_topLevel_of_mem (h : (.pool, guid) ∈ tables.members poolId) :
    ¬ tables.TopLevel guid := by
  intro htop
  have hsome := tables.searchMap_isSome (mem_members.mp h).2
  rw [htop] at hsome
  cases hsome

theorem exists_mother (h : ¬ tables.TopLevel poolId) :
    ∃ mother, (.pool, poolId) ∈ tables.members mother := by
  obtain ⟨mother, hmother⟩ := Option.ne_none_iff_exists'.mp h
  exact ⟨mother, mem_members.mpr ⟨by simp, tables.searchMap_mem hmother⟩⟩

theorem PoolTables.Open.active (h : tables.Open s guid)
    (hmem : (.pool, guid) ∈ tables.members poolId) :
    s.isActive (.pool, guid) = true :=
  h.resolve_left (not_topLevel_of_mem hmem)

/-! ### Marks and counts -/

@[simp] theorem isActive_creature : s.isActive (.creature, guid) = true ↔
    guid ∈ s.spawnedCreatures := decide_eq_true_iff

@[simp] theorem isActive_gameobject : s.isActive (.gameobject, guid) = true ↔
    guid ∈ s.spawnedGameobjects := decide_eq_true_iff

@[simp] theorem isActive_quest : s.isActive (.quest, guid) = true ↔ guid ∈ s.activeQuests :=
  decide_eq_true_iff

@[simp] theorem isActive_pool : s.isActive (.pool, guid) = (s.spawnedPools.find? guid).isSome := rfl

theorem isActive_setCount (count : Nat) (member : PoolKind × Nat) :
    (s.setCount poolId count).isActive member = true ↔
      s.isActive member = true ∨ member = (.pool, poolId) := by
  obtain ⟨kind, guid⟩ := member
  cases kind with
  | pool =>
    rw [isActive_pool, isActive_pool, ActivePoolData.setCount, OrderedMap.find?_insert]
    by_cases heq : guid = poolId
    · simp [heq]
    · simp [heq]
  | _ => simp [ActivePoolData.setCount]

theorem count_setCount (count other : Nat) :
    (s.setCount poolId count).getActiveObjectCount other =
      if other = poolId then count else s.getActiveObjectCount other := by
  rw [ActivePoolData.getActiveObjectCount, ActivePoolData.setCount, OrderedMap.find?_insert]
  split
  · rfl
  · rfl

theorem isActive_markActive (member : PoolKind × Nat) :
    (s.markActive kind guid).isActive member = true ↔
      s.isActive member = true ∨ member = (kind, guid) := by
  obtain ⟨other, found⟩ := member
  by_cases heq : found = guid
  · cases kind <;> cases other <;> simp [ActivePoolData.markActive, heq]
  · cases kind <;> cases other <;> simp [ActivePoolData.markActive, OrderedMap.find?_insert, heq]

theorem count_markActive (other : Nat) :
    (s.markActive kind guid).getActiveObjectCount other =
      if (.pool, other) = (kind, guid) then 0 else s.getActiveObjectCount other := by
  cases kind with
  | pool =>
    rw [ActivePoolData.getActiveObjectCount, ActivePoolData.markActive, OrderedMap.find?_insert]
    simp only [Prod.mk.injEq, true_and]
    split
    · rfl
    · rfl
  | _ => simp [ActivePoolData.getActiveObjectCount, ActivePoolData.markActive]

theorem isActive_unmarkActive (member : PoolKind × Nat) :
    (s.unmarkActive kind guid).isActive member = true ↔
      s.isActive member = true ∧ member ≠ (kind, guid) := by
  obtain ⟨other, found⟩ := member
  by_cases heq : found = guid
  · cases kind <;> cases other <;> simp [ActivePoolData.unmarkActive, OrderedMap.find?_erase, heq]
  · cases kind <;> cases other <;> simp [ActivePoolData.unmarkActive, OrderedMap.find?_erase, heq]

theorem count_unmarkActive (other : Nat) :
    (s.unmarkActive kind guid).getActiveObjectCount other =
      if (.pool, other) = (kind, guid) then 0 else s.getActiveObjectCount other := by
  cases kind with
  | pool =>
    rw [ActivePoolData.getActiveObjectCount, ActivePoolData.unmarkActive, OrderedMap.find?_erase]
    simp only [Prod.mk.injEq, true_and]
    split
    · rfl
    · rfl
  | _ => simp [ActivePoolData.getActiveObjectCount, ActivePoolData.unmarkActive]

/-- The pool keeps its count, and its members are as active as before. -/
def Untouched (tables : PoolTables) (poolId : Nat) (s s' : ActivePoolData) : Prop :=
  s'.getActiveObjectCount poolId = s.getActiveObjectCount poolId ∧
    ∀ member ∈ tables.members poolId, s'.isActive member = s.isActive member

/-- The pools of a greater rank are untouched. -/
def Frame (tables : PoolTables) (rank : Nat) (s s' : ActivePoolData) : Prop :=
  ∀ poolId, rank < tables.rank poolId → Untouched tables poolId s s'

theorem Frame.refl (rank : Nat) (s : ActivePoolData) : Frame tables rank s s :=
  fun _ _ => ⟨rfl, fun _ _ => rfl⟩

theorem Frame.trans {rank : Nat} (h : Frame tables rank s s') (h' : Frame tables rank s' s'') :
    Frame tables rank s s'' := by
  intro poolId hlt
  obtain ⟨hcount, hactive⟩ := h poolId hlt
  obtain ⟨hcount', hactive'⟩ := h' poolId hlt
  exact ⟨hcount'.trans hcount,
    fun member hmem => (hactive' member hmem).trans (hactive member hmem)⟩

theorem Frame.mono {rank rank' : Nat} (h : Frame tables rank s s') (hle : rank ≤ rank') :
    Frame tables rank' s s' :=
  fun poolId hlt => h poolId (hle.trans_lt hlt)

/-- A pool stays open, for its mother is untouched. -/
theorem Frame.isOpen {rank : Nat} (h : Frame tables rank s s') (hrank : rank ≤ tables.rank poolId)
    (hopen : tables.Open s poolId) : tables.Open s' poolId := by
  by_cases htop : tables.TopLevel poolId
  · exact Or.inl htop
  · obtain ⟨mother, hmem⟩ := exists_mother htop
    right
    rw [(h mother (hrank.trans_lt (rank_lt_of_mem hmem))).2 _ hmem]
    exact hopen.active hmem

theorem activeMembers_congr
    (h : ∀ member ∈ tables.members poolId, s'.isActive member = s.isActive member) :
    tables.activeMembers s' poolId = tables.activeMembers s poolId := by
  rw [PoolTables.activeMembers, PoolTables.activeMembers]
  congr 1
  apply Finset.filter_congr
  intro member hmem
  rw [h member hmem]

/-- One more member is active. -/
theorem activeMembers_succ (hmem : member ∈ tables.members poolId)
    (hnot : s.isActive member = false)
    (h : ∀ other ∈ tables.members poolId,
      s'.isActive other = true ↔ s.isActive other = true ∨ other = member) :
    tables.activeMembers s' poolId = tables.activeMembers s poolId + 1 := by
  have hinsert : (tables.members poolId).filter (fun other => s'.isActive other = true) =
      insert member ((tables.members poolId).filter fun other => s.isActive other = true) := by
    ext other
    rw [Finset.mem_insert, Finset.mem_filter, Finset.mem_filter]
    constructor
    · rintro ⟨hin, hactive⟩
      obtain hold | rfl := (h other hin).mp hactive
      · exact Or.inr ⟨hin, hold⟩
      · exact Or.inl rfl
    · rintro (rfl | ⟨hin, hactive⟩)
      · exact ⟨hmem, (h other hmem).mpr (Or.inr rfl)⟩
      · exact ⟨hin, (h other hin).mpr (Or.inl hactive)⟩
  rw [PoolTables.activeMembers, PoolTables.activeMembers, hinsert]
  apply Finset.card_insert_of_notMem
  intro hin
  rw [(Finset.mem_filter.mp hin).2] at hnot
  cases hnot

/-- One member less is active. -/
theorem activeMembers_pred (hmem : member ∈ tables.members poolId)
    (hactive : s.isActive member = true)
    (h : ∀ other ∈ tables.members poolId,
      s'.isActive other = true ↔ s.isActive other = true ∧ other ≠ member) :
    tables.activeMembers s' poolId + 1 = tables.activeMembers s poolId := by
  have hnot : s'.isActive member = false := by
    rw [Bool.eq_false_iff]
    intro hstill
    exact ((h member hmem).mp hstill).2 rfl
  refine (activeMembers_succ hmem hnot ?_).symm
  intro other hin
  rw [h other hin]
  by_cases heq : other = member
  · subst heq
    exact iff_of_true hactive (Or.inr rfl)
  · simp [heq]

theorem activeMembers_eq_zero
    (h : ∀ member ∈ tables.members poolId, s.isActive member = false) :
    tables.activeMembers s poolId = 0 := by
  rw [PoolTables.activeMembers, Finset.card_eq_zero, Finset.filter_eq_empty_iff]
  intro member hmem
  rw [h member hmem]
  exact Bool.false_ne_true

/-- What is not active has no active members. -/
theorem PoolTables.Accounted.inactive (h : tables.Accounted bound s)
    (hmem : (.pool, guid) ∈ tables.members poolId) (hnot : s.isActive (.pool, guid) = false) :
    ∀ member ∈ tables.members guid, s.isActive member = false := by
  intro member hin
  rw [Bool.eq_false_iff]
  intro hactive
  rw [h.nested (not_topLevel_of_mem hmem) hin hactive] at hnot
  cases hnot

/-! ### One object -/

theorem isActive_activateObject (hopen : tables.Open s poolId) {other : Nat}
    (hmem : member ∈ tables.members other) :
    (s.activateObject kind guid poolId).isActive member = true ↔
      s.isActive member = true ∨ member = (kind, guid) := by
  rw [ActivePoolData.activateObject, isActive_setCount, isActive_markActive]
  constructor
  · rintro (hor | rfl)
    · exact hor
    · exact Or.inl (hopen.active hmem)
  · exact Or.inl

theorem isActive_removeObject (hopen : tables.Open s poolId) {other : Nat}
    (hmem : member ∈ tables.members other) (hne : (.pool, poolId) ≠ (kind, guid)) :
    (s.removeObject kind guid poolId).isActive member = true ↔
      s.isActive member = true ∧ member ≠ (kind, guid) := by
  rw [ActivePoolData.removeObject, isActive_setCount, isActive_unmarkActive]
  constructor
  · rintro (hand | rfl)
    · exact hand
    · exact ⟨hopen.active hmem, hne⟩
  · exact Or.inl

theorem ne_of_member (hmem : (kind, guid) ∈ tables.members poolId) :
    (.pool, poolId) ≠ (kind, guid) := by
  intro heq
  cases heq
  exact lt_irrefl _ (rank_lt_of_mem hmem)

theorem uint32_succ {n : Nat} (h : n + 1 ≤ 2 ^ 31) : uint32 (n + 1 : Nat) = n + 1 := by
  rw [uint32]
  omega

/-- What an object that is marked or unmarked does to its pool. -/
structure Changed (tables : PoolTables) (bound : Nat → Nat) (poolId : Nat)
    (s s' : ActivePoolData) : Prop where
  accounted : tables.Accounted bound s'
  frame : Frame tables (tables.rank poolId) s s'

/-- A member of an open pool that was not active. -/
theorem PoolTables.Accounted.activate (hone : tables.AtMostOnePool)
    (h : tables.Accounted bound s) (hopen : tables.Open s poolId)
    (hmem : (kind, guid) ∈ tables.members poolId) (hnot : s.isActive (kind, guid) = false)
    (hroom : tables.WithoutQuests poolId → tables.activeMembers s poolId + 1 ≤ bound poolId)
    (hbound : bound poolId ≤ 2 ^ 31) :
    Changed tables bound poolId s (s.activateObject kind guid poolId) := by
  have hactive : ∀ {other member}, member ∈ tables.members other →
      ((s.activateObject kind guid poolId).isActive member = true ↔
        s.isActive member = true ∨ member = (kind, guid)) :=
    fun hin => isActive_activateObject hopen hin
  have hsame : ∀ {other}, other ≠ poolId → ∀ member ∈ tables.members other,
      (s.activateObject kind guid poolId).isActive member = s.isActive member := by
    intro other hne member hin
    rw [Bool.eq_iff_iff, hactive hin, or_iff_left]
    rintro rfl
    exact hne (members_unique hone hin hmem)
  have hcount : ∀ other, (s.activateObject kind guid poolId).getActiveObjectCount other =
      if other = poolId then uint32 (s.getActiveObjectCount poolId + 1 : Nat)
      else if (.pool, other) = (kind, guid) then 0 else s.getActiveObjectCount other := by
    intro other
    rw [ActivePoolData.activateObject, count_setCount, count_markActive, count_markActive,
      if_neg (ne_of_member hmem)]
  have hone_more := activeMembers_succ hmem hnot fun other hin => hactive hin
  have hold : ∀ {other}, tables.Open (s.activateObject kind guid poolId) other →
      (.pool, other) ≠ (kind, guid) → tables.Open s other := by
    intro other hother hne
    obtain htop | hother := hother
    · exact Or.inl htop
    · by_cases htop : tables.TopLevel other
      · exact Or.inl htop
      · obtain ⟨mother, hin⟩ := exists_mother htop
        exact Or.inr (((hactive hin).mp hother).resolve_right hne)
  -- a sub-pool that starts has no active members
  have hnew : ∀ {other}, (.pool, other) = (kind, guid) →
      tables.activeMembers (s.activateObject kind guid poolId) other = 0 := by
    intro other heq
    obtain ⟨rfl, rfl⟩ := Prod.mk.inj heq
    have hne : other ≠ poolId := by
      rintro rfl
      exact ne_of_member hmem rfl
    rw [activeMembers_congr (hsame hne)]
    exact activeMembers_eq_zero (h.inactive hmem hnot)
  have hkeep : ∀ {other}, tables.Open (s.activateObject kind guid poolId) other →
      tables.WithoutQuests other → other ≠ poolId →
        (s.activateObject kind guid poolId).getActiveObjectCount other =
          tables.activeMembers (s.activateObject kind guid poolId) other ∧
        tables.activeMembers (s.activateObject kind guid poolId) other ≤ bound other := by
    intro other hother hquests hne
    rw [hcount, if_neg hne]
    by_cases heq : (.pool, other) = (kind, guid)
    · rw [if_pos heq, hnew heq]
      exact ⟨rfl, Nat.zero_le _⟩
    · rw [if_neg heq, activeMembers_congr (hsame hne)]
      exact ⟨h.counts (hold hother heq) hquests, h.limits (hold hother heq) hquests⟩
  refine ⟨⟨?_, ?_, ?_⟩, ?_⟩
  · intro other hother hquests
    by_cases heq : other = poolId
    · subst heq
      rw [hcount, if_pos rfl, hone_more, h.counts hopen hquests,
        uint32_succ ((hroom hquests).trans hbound)]
    · exact (hkeep hother hquests heq).1
  · intro other hother hquests
    by_cases heq : other = poolId
    · subst heq
      rw [hone_more]
      exact hroom hquests
    · exact (hkeep hother hquests heq).2
  · intro other htop member hin hmember
    obtain ⟨mother, hmother⟩ := exists_mother htop
    rw [hactive hmother]
    obtain hbefore | rfl := (hactive hin).mp hmember
    · exact Or.inl (h.nested htop hin hbefore)
    · rw [members_unique hone hin hmem]
      exact Or.inl (hopen.resolve_left (members_unique hone hin hmem ▸ htop))
  · intro other hlt
    have hne : other ≠ poolId := by
      rintro rfl
      exact lt_irrefl _ hlt
    refine ⟨?_, hsame hne⟩
    rw [hcount, if_neg hne, if_neg]
    intro heq
    obtain ⟨rfl, rfl⟩ := Prod.mk.inj heq
    exact absurd (rank_lt_of_mem hmem) (Nat.not_lt.mpr hlt.le)

/-- An active member of an open pool. A sub-pool has despawned before. -/
theorem PoolTables.Accounted.remove (hone : tables.AtMostOnePool)
    (h : tables.Accounted bound s) (hopen : tables.Open s poolId)
    (hmem : (kind, guid) ∈ tables.members poolId) (hactive : s.isActive (kind, guid) = true)
    (hinner : kind = .pool → ∀ member ∈ tables.members guid, s.isActive member = false) :
    Changed tables bound poolId s (s.removeObject kind guid poolId) := by
  have hstill : ∀ {other member}, member ∈ tables.members other →
      ((s.removeObject kind guid poolId).isActive member = true ↔
        s.isActive member = true ∧ member ≠ (kind, guid)) :=
    fun hin => isActive_removeObject hopen hin (ne_of_member hmem)
  have hsame : ∀ {other}, other ≠ poolId → ∀ member ∈ tables.members other,
      (s.removeObject kind guid poolId).isActive member = s.isActive member := by
    intro other hne member hin
    rw [Bool.eq_iff_iff, hstill hin, and_iff_left]
    rintro rfl
    exact hne (members_unique hone hin hmem)
  have hcount : ∀ other, (s.removeObject kind guid poolId).getActiveObjectCount other =
      if other = poolId then s.getActiveObjectCount poolId - 1
      else if (.pool, other) = (kind, guid) then 0 else s.getActiveObjectCount other := by
    intro other
    rw [ActivePoolData.removeObject, count_setCount, count_unmarkActive, count_unmarkActive,
      if_neg (ne_of_member hmem)]
    split
    · split
      · rfl
      · next hzero => omega
    · rfl
  have hone_less := activeMembers_pred hmem hactive fun other hin => hstill hin
  have hold : ∀ {other}, tables.Open (s.removeObject kind guid poolId) other →
      tables.Open s other ∧ (.pool, other) ≠ (kind, guid) := by
    intro other hother
    by_cases htop : tables.TopLevel other
    · refine ⟨Or.inl htop, ?_⟩
      intro heq
      obtain ⟨rfl, rfl⟩ := Prod.mk.inj heq
      exact not_topLevel_of_mem hmem htop
    · obtain ⟨mother, hin⟩ := exists_mother htop
      obtain ⟨hbefore, hne⟩ := (hstill hin).mp (hother.resolve_left htop)
      exact ⟨Or.inr hbefore, hne⟩
  refine ⟨⟨?_, ?_, ?_⟩, ?_⟩
  · intro other hother hquests
    obtain ⟨hbefore, hne⟩ := hold hother
    rw [hcount, if_neg hne]
    by_cases heq : other = poolId
    · subst heq
      rw [if_pos rfl, h.counts hbefore hquests]
      omega
    · rw [if_neg heq, activeMembers_congr (hsame heq)]
      exact h.counts hbefore hquests
  · intro other hother hquests
    have hlimit := h.limits (hold hother).1 hquests
    by_cases heq : other = poolId
    · subst heq
      omega
    · rw [activeMembers_congr (hsame heq)]
      exact hlimit
  · intro other htop member hin hmember
    obtain ⟨mother, hmother⟩ := exists_mother htop
    obtain ⟨hbefore, -⟩ := (hstill hin).mp hmember
    refine (hstill hmother).mpr ⟨h.nested htop hin hbefore, ?_⟩
    intro heq
    obtain ⟨rfl, rfl⟩ := Prod.mk.inj heq
    rw [hinner rfl member hin] at hbefore
    cases hbefore
  · intro other hlt
    have hne : other ≠ poolId := by
      rintro rfl
      exact lt_irrefl _ hlt
    refine ⟨?_, hsame hne⟩
    rw [hcount, if_neg hne, if_neg]
    intro heq
    obtain ⟨rfl, rfl⟩ := Prod.mk.inj heq
    exact absurd (rank_lt_of_mem hmem) (Nat.not_lt.mpr hlt.le)

/-! ### Quests -/

/-- Only the count of one pool changes, and quests. -/
structure SameBut (tables : PoolTables) (poolId : Nat) (s s' : ActivePoolData) : Prop where
  active : ∀ {other}, ∀ member ∈ tables.members other, s'.isActive member = s.isActive member
  counts : ∀ {other}, other ≠ poolId →
    s'.getActiveObjectCount other = s.getActiveObjectCount other

theorem SameBut.refl (poolId : Nat) (s : ActivePoolData) : SameBut tables poolId s s :=
  ⟨fun _ _ => rfl, fun _ => rfl⟩

theorem SameBut.trans (h : SameBut tables poolId s s') (h' : SameBut tables poolId s' s'') :
    SameBut tables poolId s s'' where
  active := fun member hmem => (h'.active member hmem).trans (h.active member hmem)
  counts := fun hne => (h'.counts hne).trans (h.counts hne)

theorem SameBut.open_iff (h : SameBut tables poolId s s') (other : Nat) :
    tables.Open s' other ↔ tables.Open s other := by
  by_cases htop : tables.TopLevel other
  · exact iff_of_true (Or.inl htop) (Or.inl htop)
  · obtain ⟨mother, hmem⟩ := exists_mother htop
    rw [PoolTables.Open, PoolTables.Open, h.active _ hmem]

theorem SameBut.changed (h : SameBut tables poolId s s') (hs : tables.Accounted bound s)
    (hquests : ¬ tables.WithoutQuests poolId) : Changed tables bound poolId s s' := by
  have hne : ∀ {other}, tables.WithoutQuests other → other ≠ poolId := by
    rintro other hwithout rfl
    exact hquests hwithout
  refine ⟨⟨?_, ?_, ?_⟩, ?_⟩
  · intro other hopen hwithout
    rw [h.counts (hne hwithout), activeMembers_congr fun member hmem => h.active member hmem]
    exact hs.counts ((h.open_iff other).mp hopen) hwithout
  · intro other hopen hwithout
    rw [activeMembers_congr fun member hmem => h.active member hmem]
    exact hs.limits ((h.open_iff other).mp hopen) hwithout
  · intro other htop member hmem hactive
    obtain ⟨mother, hmother⟩ := exists_mother htop
    rw [h.active member hmem] at hactive
    rw [h.active _ hmother]
    exact hs.nested htop hmem hactive
  · intro other hlt
    refine ⟨h.counts ?_, fun member hmem => h.active member hmem⟩
    rintro rfl
    exact lt_irrefl _ hlt

theorem ne_quest_of_mem (hmem : member ∈ tables.members poolId) (questId : Nat) :
    member ≠ (.quest, questId) := by
  rintro rfl
  exact (mem_members.mp hmem).1 rfl

theorem sameBut_activate (hopen : tables.Open s poolId) (questId : Nat) :
    SameBut tables poolId s (s.activateObject .quest questId poolId) := by
  constructor
  · intro other member hmem
    rw [Bool.eq_iff_iff, isActive_activateObject hopen hmem,
      or_iff_left (ne_quest_of_mem hmem questId)]
  · intro other hne
    rw [ActivePoolData.activateObject, count_setCount, if_neg hne, count_markActive, if_neg]
    simp

theorem sameBut_remove (hopen : tables.Open s poolId) (questId : Nat) :
    SameBut tables poolId s (s.removeObject .quest questId poolId) := by
  constructor
  · intro other member hmem
    rw [Bool.eq_iff_iff, isActive_removeObject hopen hmem (by simp),
      and_iff_left (ne_quest_of_mem hmem questId)]
  · intro other hne
    rw [ActivePoolData.removeObject, count_setCount, if_neg hne, count_unmarkActive, if_neg]
    simp

theorem sameBut_advance (poolId : Nat) (s : ActivePoolData) :
    SameBut tables poolId s s.advance := by
  constructor
  · rintro other ⟨kind, guid⟩ _
    cases kind <;> rfl
  · exact fun _ => rfl

theorem sameBut_despawnQuests (group : PoolGroup)
    {despawn1Object : Nat → ActivePoolData → ActivePoolData}
    (hidle : ∀ questId s, despawn1Object questId s = s) (guid : Nat) (hopen : tables.Open s poolId) :
    SameBut tables poolId s (group.despawnObject .quest poolId despawn1Object guid s) := by
  rw [PoolGroup.despawnObject]
  induction group.guids generalizing s with
  | nil => exact .refl _ _
  | cons questId rest ih =>
    rw [List.foldl_cons]
    split
    · rw [hidle]
      have hremove := sameBut_remove hopen questId
      exact hremove.trans (ih ((hremove.open_iff poolId).mpr hopen))
    · exact ih hopen

theorem sameBut_loadSaved (limit : Nat) (saved : List Nat) (hopen : tables.Open s poolId) :
    SameBut tables poolId s (loadSaved poolId limit saved s) := by
  induction saved generalizing limit s with
  | nil => exact .refl _ _
  | cons questId rest ih =>
    have hactivate := sameBut_activate hopen questId
    rw [loadSaved]
    split
    · exact hactivate
    · exact hactivate.trans (ih _ ((hactivate.open_iff poolId).mpr hopen))

theorem sameBut_recycleQuests (poolId limit size : Nat) (currentQuests newQuests : Finset Nat)
    (s : ActivePoolData) : SameBut tables poolId s
      (recycleQuests draws limit size currentQuests newQuests s).2 := by
  induction size generalizing currentQuests newQuests s with
  | zero => exact .refl _ _
  | succ size ih =>
    rw [recycleQuests]
    split
    · exact .refl _ _
    · dsimp only
      split
      · exact (sameBut_advance poolId s).trans (ih _ _ _)
      · exact sameBut_advance poolId s

theorem sameBut_activateQuests (size limit : Nat) (newQuests : Finset Nat)
    (hopen : tables.Open s poolId) :
    SameBut tables poolId s (activateQuests draws poolId size limit newQuests s) := by
  induction size generalizing limit newQuests s with
  | zero => exact .refl _ _
  | succ size ih =>
    rw [activateQuests]
    split
    · exact .refl _ _
    · next questId _ =>
        have hadvance : SameBut tables poolId s s.advance := sameBut_advance poolId s
        have hactivate := hadvance.trans
          (sameBut_activate ((hadvance.open_iff poolId).mpr hopen) questId)
        dsimp only
        split
        · exact hactivate
        · exact hactivate.trans (ih _ _ ((hactivate.open_iff poolId).mpr hopen))

theorem sameBut_renewQuests (draws : Nat → Draw) (hopen : tables.Open s poolId) :
    SameBut tables poolId s (renewQuests tables draws poolId s).2 := by
  have hdespawn := sameBut_despawnQuests (tables.group .quest poolId) (fun _ _ => rfl) 0 hopen
  rw [renewQuests]
  split
  · exact hdespawn.trans (sameBut_recycleQuests poolId _ _ _ _ _)
  · exact hdespawn

theorem sameBut_spawnQuests (triggerFrom : Nat) (hopen : tables.Open s poolId) :
    SameBut tables poolId s (spawnQuests tables draws poolId triggerFrom s) := by
  have hadvance : SameBut tables poolId s s.advance := sameBut_advance poolId s
  have hopen' := (hadvance.open_iff poolId).mpr hopen
  rw [spawnQuests]
  dsimp only
  split
  · exact hadvance.trans (sameBut_loadSaved _ _ hopen')
  · have hrenew := hadvance.trans (sameBut_renewQuests draws hopen')
    exact hrenew.trans (sameBut_activateQuests _ _ _ ((hrenew.open_iff poolId).mpr hopen))

/-! ### Despawning -/

variable {despawnSub : Nat → ActivePoolData → ActivePoolData}

/-- An action despawns an open pool. -/
def Despawns (tables : PoolTables) (child : Nat)
    (action : Nat → ActivePoolData → ActivePoolData) : Prop :=
  ∀ {bound s}, tables.Accounted bound s → tables.Open s child →
    Changed tables bound child s (action child s) ∧
      ∀ member ∈ tables.members child, (action child s).isActive member = false

theorem Changed.refl (h : tables.Accounted bound s) (poolId : Nat) :
    Changed tables bound poolId s s :=
  ⟨h, .refl _ s⟩

theorem Changed.trans (h : Changed tables bound poolId s s')
    (h' : Changed tables bound poolId s' s'') : Changed tables bound poolId s s'' :=
  ⟨h'.accounted, h.frame.trans h'.frame⟩

theorem Changed.isOpen (h : Changed tables bound poolId s s') (hopen : tables.Open s poolId) :
    tables.Open s' poolId :=
  h.frame.isOpen le_rfl hopen

/-- A sub-pool that was spawned or despawned, seen from its mother. -/
theorem Changed.ofChild {child : Nat} (h : Changed tables bound child s s')
    (hmem : (.pool, child) ∈ tables.members poolId) :
    Changed tables bound poolId s s' ∧ Untouched tables poolId s s' :=
  ⟨⟨h.accounted, h.frame.mono (rank_lt_of_mem hmem).le⟩, h.frame poolId (rank_lt_of_mem hmem)⟩

/-- What `Despawn1Object` does before a member is removed. -/
theorem despawn1Object_changed
    (hsub : ∀ child, (.pool, child) ∈ tables.members poolId → Despawns tables child despawnSub)
    (h : tables.Accounted bound s) (hmem : (kind, guid) ∈ tables.members poolId)
    (hactive : s.isActive (kind, guid) = true) :
    Changed tables bound poolId s (onSubPool despawnSub kind guid s) ∧
      Untouched tables poolId s (onSubPool despawnSub kind guid s) ∧
      (kind = .pool → ∀ member ∈ tables.members guid,
        (onSubPool despawnSub kind guid s).isActive member = false) := by
  cases kind with
  | pool =>
    obtain ⟨hchanged, hinner⟩ := hsub guid hmem h (Or.inr hactive)
    obtain ⟨hmother, huntouched⟩ := hchanged.ofChild hmem
    exact ⟨hmother, huntouched, fun _ => hinner⟩
  | _ => exact ⟨.refl h poolId, ⟨rfl, fun _ _ => rfl⟩, fun heq => by cases heq⟩

theorem despawnObject_changed (hone : tables.AtMostOnePool)
    (hsub : ∀ child, (.pool, child) ∈ tables.members poolId → Despawns tables child despawnSub)
    (hkind : kind ≠ .quest) (guid : Nat) {objects : List Nat}
    (hobjects : ∀ object ∈ objects, object ∈ (tables.group kind poolId).guids)
    (h : tables.Accounted bound s) (hopen : tables.Open s poolId) :
    let after := objects.foldl (fun s object =>
      if s.isActiveObject kind object && (guid == 0 || object == guid) then
        (onSubPool despawnSub kind object s).removeObject kind object poolId
      else s) s
    Changed tables bound poolId s after ∧ ∀ member ∈ tables.members poolId,
      (after.isActive member = true ↔ s.isActive member = true ∧
        ¬ (member.1 = kind ∧ member.2 ∈ objects ∧ (guid = 0 ∨ member.2 = guid))) := by
  induction objects generalizing s with
  | nil =>
    refine ⟨.refl h poolId, ?_⟩
    intro member _
    simp
  | cons object rest ih =>
    have hmem : (kind, object) ∈ tables.members poolId :=
      mem_members.mpr ⟨hkind, hobjects object List.mem_cons_self⟩
    have hrest := fun other hother => hobjects other (List.mem_cons_of_mem object hother)
    rw [List.foldl_cons]
    split
    · next hand =>
        rw [Bool.and_eq_true, Bool.or_eq_true, beq_iff_eq, beq_iff_eq] at hand
        obtain ⟨hactive, hguid⟩ := hand
        obtain ⟨hchanged, huntouched, hinner⟩ := despawn1Object_changed hsub h hmem hactive
        have hopen' := hchanged.isOpen hopen
        have hremove := hchanged.accounted.remove hone hopen' hmem
          ((huntouched.2 _ hmem).trans hactive) hinner
        obtain ⟨hafter, hmembers⟩ := ih hrest hremove.accounted (hremove.isOpen hopen')
        refine ⟨(hchanged.trans hremove).trans hafter, ?_⟩
        intro member hin
        rw [hmembers member hin, isActive_removeObject hopen' hin (ne_of_member hmem),
          huntouched.2 member hin]
        obtain ⟨other, found⟩ := member
        constructor
        · rintro ⟨⟨hbefore, hne⟩, hout⟩
          refine ⟨hbefore, ?_⟩
          rintro ⟨rfl, hfound, hfilter⟩
          obtain rfl | hfound := List.mem_cons.mp hfound
          · exact hne rfl
          · exact hout ⟨rfl, hfound, hfilter⟩
        · rintro ⟨hbefore, hout⟩
          refine ⟨⟨hbefore, ?_⟩, ?_⟩
          · intro heq
            obtain ⟨rfl, rfl⟩ := Prod.mk.inj heq
            exact hout ⟨rfl, List.mem_cons_self, hguid⟩
          · exact fun hand => hout ⟨hand.1, List.mem_cons_of_mem _ hand.2.1, hand.2.2⟩
    · next hnot =>
        obtain ⟨hafter, hmembers⟩ := ih hrest h hopen
        refine ⟨hafter, ?_⟩
        intro member hin
        rw [hmembers member hin]
        obtain ⟨other, found⟩ := member
        rw [Bool.and_eq_true, Bool.or_eq_true, beq_iff_eq, beq_iff_eq] at hnot
        constructor
        · rintro ⟨hactive, hout⟩
          refine ⟨hactive, ?_⟩
          rintro ⟨rfl, hfound, hguid⟩
          obtain rfl | hfound := List.mem_cons.mp hfound
          · exact hnot ⟨hactive, hguid⟩
          · exact hout ⟨rfl, hfound, hguid⟩
        · rintro ⟨hactive, hout⟩
          exact ⟨hactive, fun hand => hout ⟨hand.1, List.mem_cons_of_mem _ hand.2.1, hand.2.2⟩⟩

theorem despawnGroup_eq (tables : PoolTables) (despawnSub : Nat → ActivePoolData → ActivePoolData)
    (kind : PoolKind) (poolId : Nat) (s : ActivePoolData) :
    despawnGroup tables despawnSub kind poolId s =
      (tables.group kind poolId).despawnObject kind poolId (onSubPool despawnSub kind) 0 s := by
  rw [despawnGroup]
  split
  · next hempty =>
      rw [PoolGroup.isEmpty, Bool.and_eq_true, List.isEmpty_iff, List.isEmpty_iff] at hempty
      rw [PoolGroup.despawnObject, PoolGroup.guids, hempty.1, hempty.2]
      rfl
  · rfl

/-- A group despawns all its objects. -/
theorem despawnGroup_changed (hone : tables.AtMostOnePool)
    (hsub : ∀ child, (.pool, child) ∈ tables.members poolId → Despawns tables child despawnSub)
    (hkind : kind ≠ .quest) (h : tables.Accounted bound s) (hopen : tables.Open s poolId) :
    Changed tables bound poolId s (despawnGroup tables despawnSub kind poolId s) ∧
      ∀ member ∈ tables.members poolId,
        ((despawnGroup tables despawnSub kind poolId s).isActive member = true ↔
          s.isActive member = true ∧ member.1 ≠ kind) := by
  rw [despawnGroup_eq, PoolGroup.despawnObject]
  obtain ⟨hchanged, hmembers⟩ := despawnObject_changed hone hsub hkind 0 (fun _ hin => hin) h hopen
  refine ⟨hchanged, ?_⟩
  rintro ⟨other, found⟩ hin
  rw [hmembers _ hin]
  constructor
  · rintro ⟨hactive, hout⟩
    refine ⟨hactive, ?_⟩
    rintro rfl
    exact hout ⟨rfl, (mem_members.mp hin).2, Or.inl rfl⟩
  · rintro ⟨hactive, hne⟩
    exact ⟨hactive, fun hand => hne hand.1⟩

theorem despawnQuests_changed (h : tables.Accounted bound s) (hopen : tables.Open s poolId) :
    Changed tables bound poolId s (despawnGroup tables despawnSub .quest poolId s) ∧
      ∀ member ∈ tables.members poolId,
        (despawnGroup tables despawnSub .quest poolId s).isActive member = s.isActive member := by
  by_cases hquests : tables.WithoutQuests poolId
  · have hempty : (tables.group .quest poolId).isEmpty = true := hquests
    rw [despawnGroup, if_pos hempty]
    exact ⟨.refl h poolId, fun _ _ => rfl⟩
  · rw [despawnGroup_eq]
    have hsame := sameBut_despawnQuests (tables.group .quest poolId)
      (fun _ _ => rfl : ∀ questId s, onSubPool despawnSub .quest questId s = s) 0 hopen
    exact ⟨hsame.changed h hquests, fun member hmem => hsame.active member hmem⟩

theorem despawnPool_despawns (hone : tables.AtMostOnePool) (poolId : Nat) :
    Despawns tables poolId (despawnPool tables) := by
  induction hrank : tables.rank poolId using Nat.strong_induction_on generalizing poolId with
  | _ rank ih =>
    intro bound s h hopen
    have hsub : ∀ child, (.pool, child) ∈ tables.members poolId →
        Despawns tables child fun child s =>
          if _h : child ∈ (tables.group .pool poolId).guids then despawnPool tables child s
          else s := by
      intro child hmem bound s h hopen
      dsimp only
      rw [dif_pos (mem_members.mp hmem).2]
      exact ih _ (hrank ▸ rank_lt_of_mem hmem) child rfl h hopen
    rw [despawnPool]
    obtain ⟨hfirst, hcreatures⟩ :=
      despawnGroup_changed hone hsub (by simp : PoolKind.creature ≠ .quest) h hopen
    have hopen1 := hfirst.isOpen hopen
    obtain ⟨hsecond, hgameobjects⟩ :=
      despawnGroup_changed hone hsub (by simp : PoolKind.gameobject ≠ .quest) hfirst.accounted hopen1
    have hopen2 := hsecond.isOpen hopen1
    obtain ⟨hthird, hpools⟩ :=
      despawnGroup_changed hone hsub (by simp : PoolKind.pool ≠ .quest) hsecond.accounted hopen2
    obtain ⟨hfourth, hquests⟩ := despawnQuests_changed hthird.accounted (hthird.isOpen hopen2)
    refine ⟨((hfirst.trans hsecond).trans hthird).trans hfourth, ?_⟩
    rintro ⟨kind, guid⟩ hmem
    rw [hquests _ hmem, Bool.eq_false_iff]
    intro hactive
    obtain ⟨hactive, hpool⟩ := (hpools _ hmem).mp hactive
    obtain ⟨hactive, hgameobject⟩ := (hgameobjects _ hmem).mp hactive
    obtain ⟨-, hcreature⟩ := (hcreatures _ hmem).mp hactive
    cases kind with
    | creature => exact hcreature rfl
    | gameobject => exact hgameobject rfl
    | pool => exact hpool rfl
    | quest => exact (mem_members.mp hmem).1 rfl

/-! ### Spawning -/

variable {triggerFrom count : Nat} {spawnSub : Nat → ActivePoolData → ActivePoolData}

/-- The limit as far as the loop counts: from `2 ^ 31` on the `int` is negative. -/
def PoolTables.spawnLimit (tables : PoolTables) (poolId : Nat) : Nat :=
  if tables.maxLimit poolId < 2 ^ 31 then tables.maxLimit poolId else 0

theorem spawnLimit_lt (tables : PoolTables) (poolId : Nat) : tables.spawnLimit poolId < 2 ^ 31 := by
  rw [PoolTables.spawnLimit]
  split
  · assumption
  · exact Nat.two_pow_pos 31

theorem spawnLimit_le (tables : PoolTables) (poolId : Nat) :
    tables.spawnLimit poolId ≤ tables.maxLimit poolId := by
  rw [PoolTables.spawnLimit]
  split
  · exact le_rfl
  · exact Nat.zero_le _

/-- There are no more rolls than free places, and one for the place of the trigger. -/
theorem add_rolls_le (tables : PoolTables) {active : Nat} (h : active ≤ tables.spawnLimit poolId)
    (triggerFrom : Nat) :
    active + rolls (tables.maxLimit poolId) active triggerFrom ≤
      tables.spawnLimit poolId + (if triggerFrom = 0 then 0 else 1) := by
  have hlt := tables.maxLimit_lt poolId
  rw [PoolTables.spawnLimit] at h ⊢
  rw [rolls]
  generalize tables.maxLimit poolId = limit at *
  simp only [ne_eq, ite_not, int32, Int.bmod_def]
  split_ifs at h ⊢ <;> omega

theorem rollOne_eq_some {group : PoolGroup} {draw : Draw}
    (h : group.rollOne kind s draw triggerFrom = some guid) :
    guid ∈ group.guids ∧ (guid = triggerFrom ∨ s.isActiveObject kind guid = false) := by
  rw [PoolGroup.rollOne] at h
  dsimp only at h
  split at h
  · next entry hentry =>
      cases h
      have hfound := List.find?_some hentry
      have hin := List.mem_of_find?_eq_some hentry
      rw [Bool.and_eq_true, Bool.or_eq_true, beq_iff_eq, Bool.not_eq_true'] at hfound
      refine ⟨List.mem_append_right _ ?_, hfound.2⟩
      obtain ⟨-, -, heq⟩ := List.mem_zipIdx hin
      rw [heq]
      exact List.getElem_mem _
  · obtain ⟨hget, hrollable⟩ := Option.filter_eq_some_iff.mp h
    rw [Bool.or_eq_true, beq_iff_eq, Bool.not_eq_true'] at hrollable
    exact ⟨List.mem_append_left _ (List.mem_of_getElem? hget), hrollable⟩

/-- An action spawns an open pool within a bound. -/
def Spawns (tables : PoolTables) (bound : Nat → Nat) (child : Nat)
    (action : Nat → ActivePoolData → ActivePoolData) : Prop :=
  ∀ {s}, tables.Accounted bound s → tables.Open s child →
    Changed tables bound child s (action child s)

theorem spawn1Object_changed
    (hsub : ∀ child, (.pool, child) ∈ tables.members poolId → Spawns tables bound child spawnSub)
    (h : tables.Accounted bound s) (hmem : (kind, guid) ∈ tables.members poolId)
    (hactive : s.isActive (kind, guid) = true) :
    Changed tables bound poolId s (onSubPool spawnSub kind guid s) ∧
      Untouched tables poolId s (onSubPool spawnSub kind guid s) := by
  cases kind with
  | pool => exact (hsub guid hmem h (Or.inr hactive)).ofChild hmem
  | _ => exact ⟨.refl h poolId, ⟨rfl, fun _ _ => rfl⟩⟩

/-- What the loop of `SpawnObject` promises for a pool. -/
structure LoopKeeps (tables : PoolTables) (bound : Nat → Nat) (poolId : Nat)
    (s s' : ActivePoolData) : Prop where
  changed : Changed tables bound poolId s s'
  limited : tables.WithoutQuests poolId → tables.activeMembers s' poolId ≤ tables.spawnLimit poolId

/-- What it needs: a trigger is an active member, and each round may add one. -/
structure LoopReady (tables : PoolTables) (bound : Nat → Nat) (kind : PoolKind) (poolId : Nat)
    (count triggerFrom : Nat) (s : ActivePoolData) : Prop where
  accounted : tables.Accounted bound s
  isOpen : tables.Open s poolId
  trigger : triggerFrom ≠ 0 →
    (kind, triggerFrom) ∈ tables.members poolId ∧ s.isActive (kind, triggerFrom) = true
  limited : tables.WithoutQuests poolId → tables.activeMembers s poolId ≤ tables.spawnLimit poolId
  room : tables.WithoutQuests poolId → tables.activeMembers s poolId + count ≤
    tables.spawnLimit poolId + (if triggerFrom = 0 then 0 else 1)
  slack : tables.spawnLimit poolId + (if triggerFrom = 0 then 0 else 1) ≤ bound poolId

theorem LoopReady.advance (h : LoopReady tables bound kind poolId (count + 1) triggerFrom s) :
    LoopReady tables bound kind poolId count triggerFrom s.advance where
  accounted := ⟨h.accounted.counts, h.accounted.limits, h.accounted.nested⟩
  isOpen := h.isOpen
  trigger := h.trigger
  limited := h.limited
  room := fun hquests => (Nat.add_le_add_left (Nat.le_succ count) _).trans (h.room hquests)
  slack := h.slack

/-- The trigger itself was rolled. -/
theorem LoopReady.respawn (htrigger : triggerFrom ≠ 0)
    (h : LoopReady tables bound kind poolId (count + 1) triggerFrom s) :
    LoopReady tables bound kind poolId count 0 s where
  accounted := h.accounted
  isOpen := h.isOpen
  trigger := fun hne => absurd rfl hne
  limited := h.limited
  room := by
    intro hquests
    have hroom := h.room hquests
    rw [if_neg htrigger] at hroom
    rw [if_pos rfl]
    omega
  slack := by
    have hslack := h.slack
    rw [if_pos rfl]
    omega

/-- The state after a member was activated and has spawned. -/
structure Activated (tables : PoolTables) (bound : Nat → Nat) (kind : PoolKind) (poolId : Nat)
    (object : Nat) (s s' : ActivePoolData) : Prop where
  changed : Changed tables bound poolId s s'
  active : ∀ member ∈ tables.members poolId, (s'.isActive member = true ↔
    s.isActive member = true ∨ member = (kind, object))
  members : tables.activeMembers s' poolId = tables.activeMembers s poolId + 1

theorem LoopReady.activate (hone : tables.AtMostOnePool) (hbound : bound poolId ≤ 2 ^ 31)
    (hsub : ∀ child, (.pool, child) ∈ tables.members poolId → Spawns tables bound child spawnSub)
    {object : Nat} (h : LoopReady tables bound kind poolId (count + 1) triggerFrom s)
    (hmem : (kind, object) ∈ tables.members poolId) (hnot : s.isActive (kind, object) = false) :
    Activated tables bound kind poolId object s
      (onSubPool spawnSub kind object (s.activateObject kind object poolId)) := by
  have hroom : tables.WithoutQuests poolId →
      tables.activeMembers s poolId + 1 ≤ bound poolId := by
    intro hquests
    have hfits := h.room hquests
    have hslack := h.slack
    omega
  have hactivate := h.accounted.activate hone h.isOpen hmem hnot hroom hbound
  have hactive : ∀ member ∈ tables.members poolId,
      ((s.activateObject kind object poolId).isActive member = true ↔
        s.isActive member = true ∨ member = (kind, object)) :=
    fun member hin => isActive_activateObject h.isOpen hin
  obtain ⟨hspawn, huntouched⟩ := spawn1Object_changed hsub hactivate.accounted hmem
    ((hactive _ hmem).mpr (Or.inr rfl))
  refine ⟨hactivate.trans hspawn, ?_, ?_⟩
  · intro member hin
    rw [huntouched.2 member hin]
    exact hactive member hin
  · rw [activeMembers_congr huntouched.2]
    exact activeMembers_succ hmem hnot hactive

/-- Without a trigger the loop goes on with one free place less. -/
theorem LoopReady.more {object : Nat} (h : LoopReady tables bound kind poolId (count + 1) 0 s)
    (hactivated : Activated tables bound kind poolId object s s') :
    LoopReady tables bound kind poolId count 0 s' where
  accounted := hactivated.changed.accounted
  isOpen := hactivated.changed.isOpen h.isOpen
  trigger := fun hne => absurd rfl hne
  limited := by
    intro hquests
    have hroom := h.room hquests
    rw [if_pos rfl] at hroom
    rw [hactivated.members]
    omega
  room := by
    intro hquests
    have hroom := h.room hquests
    rw [hactivated.members]
    omega
  slack := h.slack

/-- The trigger gives way to the member that was activated. -/
theorem LoopReady.replace (hone : tables.AtMostOnePool) (hkind : kind ≠ .quest) {object : Nat}
    (htrigger : triggerFrom ≠ 0)
    (h : LoopReady tables bound kind poolId (count + 1) triggerFrom s)
    (hactivated : Activated tables bound kind poolId object s s') :
    Changed tables bound poolId s' ((tables.group kind poolId).despawnObject kind poolId
        (onSubPool (despawnPool tables) kind) triggerFrom s') ∧
      LoopReady tables bound kind poolId count 0 ((tables.group kind poolId).despawnObject kind
        poolId (onSubPool (despawnPool tables) kind) triggerFrom s') := by
  obtain ⟨hmem, hactive⟩ := h.trigger htrigger
  have hopen := hactivated.changed.isOpen h.isOpen
  obtain ⟨hchanged, hmembers⟩ := despawnObject_changed hone
    (fun child _ => despawnPool_despawns hone child) hkind triggerFrom (fun _ hin => hin)
    hactivated.changed.accounted hopen
  have hleft : ∀ member ∈ tables.members poolId,
      (((tables.group kind poolId).despawnObject kind poolId
        (onSubPool (despawnPool tables) kind) triggerFrom s').isActive member = true ↔
          s'.isActive member = true ∧ member ≠ (kind, triggerFrom)) := by
    rintro ⟨other, found⟩ hin
    refine (hmembers _ hin).trans (and_congr_right fun _ => not_congr ?_)
    constructor
    · rintro ⟨rfl, -, hzero | rfl⟩
      · exact absurd hzero htrigger
      · rfl
    · intro heq
      obtain ⟨rfl, rfl⟩ := Prod.mk.inj heq
      exact ⟨rfl, (mem_members.mp hmem).2, Or.inr rfl⟩
  have hless := activeMembers_pred hmem ((hactivated.active _ hmem).mpr (Or.inl hactive)) hleft
  have hsame := hactivated.members
  refine ⟨hchanged, hchanged.accounted, hchanged.isOpen hopen, fun hne => absurd rfl hne, ?_, ?_,
    ?_⟩
  · intro hquests
    have hlimited := h.limited hquests
    omega
  · intro hquests
    have hroom := h.room hquests
    rw [if_neg htrigger] at hroom
    rw [if_pos rfl]
    omega
  · have hslack := h.slack
    rw [if_pos rfl]
    omega

theorem LoopKeeps.of_changed (h : Changed tables bound poolId s s')
    (h' : LoopKeeps tables bound poolId s' s'') : LoopKeeps tables bound poolId s s'' :=
  ⟨h.trans h'.changed, h'.limited⟩

theorem spawnLoop_keeps (hone : tables.AtMostOnePool) (hkind : kind ≠ .quest)
    (hbound : bound poolId ≤ 2 ^ 31)
    (hsub : ∀ child, (.pool, child) ∈ tables.members poolId → Spawns tables bound child spawnSub)
    (count : Nat) (lastDespawned : Nat)
    (h : LoopReady tables bound kind poolId count triggerFrom s) :
    LoopKeeps tables bound poolId s
      (spawnLoop tables draws spawnSub kind poolId count triggerFrom lastDespawned s) := by
  induction count generalizing triggerFrom lastDespawned s with
  | zero => exact ⟨.refl h.accounted poolId, h.limited⟩
  | succ count ih =>
    have hready := h.advance
    have hadvance : Changed tables bound poolId s s.advance :=
      ⟨hready.accounted, .refl _ s⟩
    rw [spawnLoop]
    dsimp only
    split
    · exact (ih lastDespawned hready).of_changed hadvance
    · next object hrolled =>
        obtain ⟨hin, hwhich⟩ := rollOne_eq_some hrolled
        have hmem : (kind, object) ∈ tables.members poolId := mem_members.mpr ⟨hkind, hin⟩
        split
        · exact (ih lastDespawned hready).of_changed hadvance
        · split
          · next htrigger =>
              by_cases hzero : triggerFrom = 0
              · subst hzero
                exact (ih lastDespawned hready).of_changed hadvance
              · have hrespawn : LoopReady tables bound kind poolId count 0 s.advance :=
                  ⟨hready.accounted, hready.isOpen, fun hne => absurd rfl hne, hready.limited,
                    (h.respawn hzero).room, (h.respawn hzero).slack⟩
                exact (ih lastDespawned hrespawn).of_changed hadvance
          · next htrigger =>
              have hnot : s.advance.isActive (kind, object) = false :=
                hwhich.resolve_left htrigger
              have hfull : LoopReady tables bound kind poolId (count + 1) triggerFrom s.advance :=
                ⟨hready.accounted, h.isOpen, h.trigger, h.limited, h.room, h.slack⟩
              have hactivated := hfull.activate hone hbound hsub hmem hnot
              have hchanged := hadvance.trans hactivated.changed
              split
              · next hne =>
                  obtain ⟨hdespawn, hnext⟩ := hfull.replace hone hkind hne hactivated
                  exact (ih triggerFrom hnext).of_changed (hchanged.trans hdespawn)
              · next hzero =>
                  obtain rfl := not_not.mp hzero
                  exact (ih lastDespawned (hfull.more hactivated)).of_changed hchanged

/-- A group spawns up to the limit of its pool. -/
theorem spawnGroup_keeps (hone : tables.AtMostOnePool) (hkind : kind ≠ .quest)
    (hbound : bound poolId ≤ 2 ^ 31)
    (hsub : ∀ child, (.pool, child) ∈ tables.members poolId → Spawns tables bound child spawnSub)
    (h : tables.Accounted bound s) (hopen : tables.Open s poolId)
    (htrigger : triggerFrom ≠ 0 →
      (kind, triggerFrom) ∈ tables.members poolId ∧ s.isActive (kind, triggerFrom) = true)
    (hlimited : tables.WithoutQuests poolId →
      tables.activeMembers s poolId ≤ tables.spawnLimit poolId)
    (hslack : tables.spawnLimit poolId + (if triggerFrom = 0 then 0 else 1) ≤ bound poolId) :
    LoopKeeps tables bound poolId s
      (spawnGroup tables draws spawnSub kind poolId triggerFrom s) := by
  rw [spawnGroup]
  · split
    · exact ⟨.refl h poolId, hlimited⟩
    · apply spawnLoop_keeps hone hkind hbound hsub
      refine ⟨h, hopen, htrigger, hlimited, ?_, hslack⟩
      intro hquests
      rw [h.counts hopen hquests]
      exact add_rolls_le tables (hlimited hquests) triggerFrom
  · exact hkind

theorem spawnQuests_changed (h : tables.Accounted bound s) (hopen : tables.Open s poolId) :
    Changed tables bound poolId s
      (spawnGroup tables draws spawnSub .quest poolId triggerFrom s) := by
  rw [spawnGroup]
  split
  · exact .refl h poolId
  · next hquests => exact (sameBut_spawnQuests triggerFrom hopen).changed h hquests

/-- The bound of a pool and of the pools below it is the limit. -/
def LimitsBelow (tables : PoolTables) (bound : Nat → Nat) (rank : Nat) : Prop :=
  ∀ {poolId}, tables.rank poolId ≤ rank → bound poolId = tables.spawnLimit poolId

theorem spawnPool_spawns (hone : tables.AtMostOnePool) (poolId : Nat)
    (hbelow : LimitsBelow tables bound (tables.rank poolId)) :
    Spawns tables bound poolId (spawnPool tables draws) := by
  induction hrank : tables.rank poolId using Nat.strong_induction_on generalizing poolId with
  | _ rank ih =>
    intro s h hopen
    have hbound : bound poolId = tables.spawnLimit poolId := hbelow le_rfl
    have hle : bound poolId ≤ 2 ^ 31 := hbound ▸ (spawnLimit_lt tables poolId).le
    have hslack : tables.spawnLimit poolId + (if (0 : Nat) = 0 then 0 else 1) ≤ bound poolId :=
      hbound.ge
    have hsub : ∀ child, (.pool, child) ∈ tables.members poolId → Spawns tables bound child
        fun child s =>
          if _h : child ∈ (tables.group .pool poolId).guids then spawnPool tables draws child s
          else s := by
      intro child hmem s h hopen
      dsimp only
      rw [dif_pos (mem_members.mp hmem).2]
      have hlt := rank_lt_of_mem hmem
      exact ih _ (hrank ▸ hlt) child (fun hchild => hbelow (hchild.trans hlt.le)) rfl h hopen
    have hlimited : tables.WithoutQuests poolId →
        tables.activeMembers s poolId ≤ tables.spawnLimit poolId :=
      fun hquests => hbound ▸ h.limits hopen hquests
    have hno : ∀ {kind : PoolKind} {s : ActivePoolData}, (0 : Nat) ≠ 0 →
        (kind, 0) ∈ tables.members poolId ∧ s.isActive (kind, 0) = true :=
      fun hne => absurd rfl hne
    rw [spawnPool]
    have hpools : LoopKeeps tables bound poolId s (spawnGroup tables draws _ .pool poolId 0 s) :=
      spawnGroup_keeps hone (by simp) hle hsub h hopen hno hlimited hslack
    have hopen1 := hpools.changed.isOpen hopen
    have hgameobjects : LoopKeeps tables bound poolId _
        (spawnGroup tables draws _ .gameobject poolId 0 _) :=
      spawnGroup_keeps hone (by simp) hle hsub hpools.changed.accounted hopen1 hno
        hpools.limited hslack
    have hopen2 := hgameobjects.changed.isOpen hopen1
    have hcreatures : LoopKeeps tables bound poolId _
        (spawnGroup tables draws _ .creature poolId 0 _) :=
      spawnGroup_keeps hone (by simp) hle hsub hgameobjects.changed.accounted hopen2 hno
        hgameobjects.limited hslack
    refine ((hpools.changed.trans hgameobjects.changed).trans hcreatures.changed).trans ?_
    exact spawnQuests_changed hcreatures.changed.accounted (hcreatures.changed.isOpen hopen2)

/-! ### Calls -/

/-- A pool that is at the top, or whose member is active, is open. -/
theorem PoolTables.Accounted.isOpen (h : tables.Accounted bound s)
    (hmem : (kind, guid) ∈ tables.members poolId) (hactive : s.isActive (kind, guid) = true) :
    tables.Open s poolId := by
  by_cases htop : tables.TopLevel poolId
  · exact Or.inl htop
  · exact Or.inr (h.nested htop hmem hactive)

/-- A group whose trigger is an active member. The pool may have one member more in between. -/
theorem spawnGroup_triggered (hone : tables.AtMostOnePool) (hkind : kind ≠ .quest)
    (h : tables.Accounted tables.spawnLimit s) (hmem : (kind, guid) ∈ tables.members poolId)
    (hactive : s.isActive (kind, guid) = true) :
    tables.Accounted tables.spawnLimit
      (spawnGroup tables draws (spawnPool tables draws) kind poolId guid s) := by
  have hopen := h.isOpen hmem hactive
  let bound := fun other => tables.spawnLimit other + (if other = poolId then 1 else 0)
  have hself : bound poolId = tables.spawnLimit poolId + 1 := by
    dsimp only [bound]
    rw [if_pos rfl]
  have hother : ∀ {other}, other ≠ poolId → bound other = tables.spawnLimit other := by
    intro other hne
    dsimp only [bound]
    rw [if_neg hne, Nat.add_zero]
  have hwide : tables.Accounted bound s :=
    ⟨h.counts, fun hopen hquests => (h.limits hopen hquests).trans (Nat.le_add_right _ _), h.nested⟩
  have hsub : ∀ child, (.pool, child) ∈ tables.members poolId →
      Spawns tables bound child (spawnPool tables draws) := by
    intro child hchild
    apply spawnPool_spawns hone
    intro other hle
    apply hother
    rintro rfl
    exact absurd (rank_lt_of_mem hchild) (Nat.not_lt.mpr hle)
  have hslack : tables.spawnLimit poolId + (if guid = 0 then 0 else 1) ≤ bound poolId := by
    rw [hself]
    split
    · exact Nat.le_succ _
    · exact le_rfl
  have hkeeps : LoopKeeps tables bound poolId s
      (spawnGroup tables draws (spawnPool tables draws) kind poolId guid s) :=
    spawnGroup_keeps hone hkind (hself ▸ spawnLimit_lt tables poolId) hsub hwide hopen
      (fun _ => ⟨hmem, hactive⟩) (h.limits hopen) hslack
  refine ⟨hkeeps.changed.accounted.counts, ?_, hkeeps.changed.accounted.nested⟩
  intro other hopen' hquests
  by_cases heq : other = poolId
  · subst heq
    exact hkeeps.limited hquests
  · rw [← hother heq]
    exact hkeeps.changed.accounted.limits hopen' hquests

theorem isPartOfAPool_mem (hkind : kind ≠ .quest) (h : tables.isPartOfAPool kind guid ≠ 0) :
    (kind, guid) ∈ tables.members (tables.isPartOfAPool kind guid) := by
  rw [PoolTables.isPartOfAPool] at h ⊢
  cases hfound : tables.searchMap kind guid with
  | none =>
    rw [hfound] at h
    exact absurd rfl h
  | some poolId => exact mem_members.mpr ⟨hkind, tables.searchMap_mem hfound⟩

theorem PoolTables.Accounted.step (hone : tables.AtMostOnePool)
    (h : tables.Accounted tables.spawnLimit s) {call : PoolCall} (hallowed : Allowed tables s call) :
    tables.Accounted tables.spawnLimit (Pools.step tables draws s call) := by
  cases call with
  | spawnPool poolId =>
    exact (spawnPool_spawns hone poolId (fun _ => rfl) h (Or.inl hallowed)).accounted
  | despawnPool poolId => exact (despawnPool_despawns hone poolId h (Or.inl hallowed)).1.accounted
  | updatePool kind guid =>
    obtain ⟨hkind, hactive⟩ := hallowed
    have hquest : kind ≠ .quest := by
      rintro rfl
      simp at hkind
    rw [Pools.step]
    split
    · next hpart =>
        have hmem := isPartOfAPool_mem hquest hpart
        have hopen := h.isOpen hmem hactive
        rw [updatePool]
        split
        · next hmother =>
            have hchild := isPartOfAPool_mem (by simp : PoolKind.pool ≠ .quest) hmother
            exact spawnGroup_triggered hone (by simp) h hchild (hopen.active hchild)
        · exact spawnGroup_triggered hone hquest h hmem hactive
    · exact h

theorem accounted_empty (tables : PoolTables) :
    tables.Accounted tables.spawnLimit ActivePoolData.empty := by
  have hnot : ∀ member, ActivePoolData.empty.isActive member = false := by
    rintro ⟨kind, guid⟩
    cases kind <;> rfl
  have hzero : ∀ poolId, tables.activeMembers ActivePoolData.empty poolId = 0 :=
    fun poolId => activeMembers_eq_zero fun member _ => hnot member
  constructor
  · intro poolId _ _
    rw [hzero]
    rfl
  · intro poolId _ _
    rw [hzero]
    exact Nat.zero_le _
  · intro poolId _ member _ hactive
    rw [hnot] at hactive
    cases hactive

/-- In every state of a run the counts of the pools without quests that are at the top or active are
right and within the limits, and members of sub-pools are active only when these are. -/
theorem accounted_of_run (hone : tables.AtMostOnePool) {calls : List PoolCall}
    (h : Runs.Admissible (step tables draws) (Allowed tables) ActivePoolData.empty calls)
    {before : List PoolCall} (hbefore : before <+: calls) :
    tables.Accounted tables.maxLimit
      (Runs.run (step tables draws) ActivePoolData.empty before) := by
  have hkept : tables.Accounted tables.spawnLimit
      (Runs.run (step tables draws) ActivePoolData.empty before) :=
    h.invariant (P := tables.Accounted tables.spawnLimit)
      (fun hs hallowed => hs.step hone hallowed) (accounted_empty tables) hbefore
  exact ⟨hkept.counts,
    fun hopen hquests => (hkept.limits hopen hquests).trans (spawnLimit_le tables _), hkept.nested⟩

/-! ### A pool of pools, one of creatures and one of quests -/

def aGroup : PoolKind → Nat → PoolGroup
  | .pool, 1 => ⟨[], [2, 3]⟩
  | .creature, 2 => ⟨[], [20, 21]⟩
  | .gameobject, 3 => ⟨[], [30]⟩
  | .quest, 4 => ⟨[], [40]⟩
  | .creature, 5 => ⟨[50], [51, 52]⟩
  | _, _ => ⟨[], []⟩

def aSearchMap : PoolKind → Nat → Option Nat
  | .pool, 2 => some 1
  | .pool, 3 => some 1
  | .creature, 20 => some 2
  | .creature, 21 => some 2
  | .gameobject, 30 => some 3
  | .quest, 40 => some 4
  | .creature, 50 => some 5
  | .creature, 51 => some 5
  | .creature, 52 => some 5
  | _, _ => none

def aRank (poolId : Nat) : Nat := if poolId = 1 then 1 else 0

theorem aSearchMap_mem {kind : PoolKind} {guid poolId : Nat}
    (h : aSearchMap kind guid = some poolId) :
    guid ∈ (aGroup kind poolId).guids := by
  unfold aSearchMap at h
  split at h <;> cases h <;> decide

theorem aSearchMap_eq {kind : PoolKind} {guid poolId : Nat} (h : guid ∈ (aGroup kind poolId).guids) :
    aSearchMap kind guid = some poolId := by
  unfold aGroup at h
  split at h <;> simp [PoolGroup.guids] at h
  all_goals first
    | (subst h; rfl)
    | (obtain rfl | rfl := h <;> rfl)
    | (obtain rfl | rfl | rfl := h <;> rfl)

theorem aRank_lt {poolId child : Nat} (h : child ∈ (aGroup .pool poolId).guids) :
    aRank child < aRank poolId := by
  have hmother := aSearchMap_eq h
  unfold aSearchMap at hmother
  split at hmother
  all_goals first
    | contradiction
    | (cases hmother; decide)

theorem two_lt : 2 < 2 ^ 32 := by decide

def someTables : PoolTables where
  maxLimit := fun _ => 2
  group := aGroup
  searchMap := aSearchMap
  rank := aRank
  maxLimit_lt := fun _ => two_lt
  searchMap_mem := aSearchMap_mem
  searchMap_isSome := fun h => Option.isSome_iff_exists.mpr ⟨_, aSearchMap_eq h⟩
  rank_lt := aRank_lt

theorem someTables_atMostOnePool : someTables.AtMostOnePool := by
  intro kind guid poolId other _ h h'
  exact Option.some.inj ((aSearchMap_eq h).symm.trans (aSearchMap_eq h'))

/-- The number is below zero everywhere, and one quest was saved. -/
def aDraw : Draw := ⟨fun _ => true, 0, [40]⟩

/-- A creature that respawns after its pool has spawned, and a pool of pools that comes and goes. -/
theorem accounted_after_respawn :
    someTables.Accounted someTables.maxLimit
      (Runs.run (step someTables fun _ => aDraw) ActivePoolData.empty
        [.spawnPool 5, .updatePool .creature 50, .spawnPool 1, .despawnPool 1]) := by
  have hrun : Runs.Admissible (step someTables fun _ => aDraw) (Allowed someTables)
      ActivePoolData.empty
      [.spawnPool 5, .updatePool .creature 50, .spawnPool 1, .despawnPool 1] := by
    refine ⟨rfl, ⟨Or.inl rfl, ?_⟩, rfl, rfl, trivial⟩
    rw [step, spawnPool]
    decide +kernel
  exact accounted_of_run someTables_atMostOnePool hrun (List.prefix_refl _)

/-- The count of a quest pool is the number of its quests. -/
theorem quests_counted :
    someTables.AtMostOnePool ∧
      Runs.Admissible (step someTables fun _ => aDraw) (Allowed someTables) ActivePoolData.empty
        [.spawnPool 4] ∧
      ¬ ∀ poolId, someTables.Open (Runs.run (step someTables fun _ => aDraw) ActivePoolData.empty
          [.spawnPool 4]) poolId →
        (Runs.run (step someTables fun _ => aDraw) ActivePoolData.empty
          [.spawnPool 4]).getActiveObjectCount poolId =
            someTables.activeMembers (Runs.run (step someTables fun _ => aDraw)
              ActivePoolData.empty [.spawnPool 4]) poolId := by
  refine ⟨someTables_atMostOnePool, ⟨rfl, trivial⟩, ?_⟩
  intro h
  have hzero : someTables.activeMembers (Runs.run (step someTables fun _ => aDraw)
      ActivePoolData.empty [.spawnPool 4]) 4 = 0 :=
    activeMembers_eq_zero fun member hmem => by
      have hempty : someTables.members 4 = ∅ := by decide +kernel
      rw [hempty] at hmem
      exact absurd hmem (Finset.notMem_empty _)
  have hcount := (h 4 (Or.inl rfl)).trans hzero
  rw [Runs.run_cons, Runs.run_nil, step, spawnPool] at hcount
  revert hcount
  decide +kernel

end Cataclysm.Pools
