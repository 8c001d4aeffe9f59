import Cataclysm.Lib.Runs
import Cataclysm.Pools.PoolMgr

/-!
# Pools of quests

The active quests of all pools are one set, and the limits are those of the pools. A quest pool
loads the quests that were saved for it, or draws new ones. It prefers quests that were not active
before, and when these are too few it draws from the active ones again: from all of them, so that
quests of other pools may fill a place. These are active already, and the pool has too few of its
own.

## Implementation notes

A call of `UpdatePool` for a pool that is no sub-pool is a call of `SpawnPool` with a trigger. The
update of a sub-pool spawns and despawns the children of its mother pool, each by calls as they are
here. The rows of a pool come from the database in any order. A restart forgets the active data.
-/

namespace Cataclysm.Pools

open ActivePoolData

/-- Every quest is in one pool, and quests have no chance. -/
structure PoolTables.DisjointQuests (tables : PoolTables) : Prop where
  equalChanced : ∀ poolId, (tables.group .quest poolId).explicitlyChanced = []
  searchMap_eq : ∀ {questId poolId}, questId ∈ (tables.group .quest poolId).guids →
    tables.searchMap .quest questId = some poolId

def PoolTables.quests (tables : PoolTables) (poolId : Nat) : Finset Nat :=
  (tables.group .quest poolId).equalChanced.toFinset

/-- As many quests as a pool should have. -/
def PoolTables.share (tables : PoolTables) (poolId : Nat) : Nat :=
  min (tables.maxLimit poolId) (tables.quests poolId).card

/-- The active data, and the quests that are saved for each pool. -/
structure QuestPools where
  spawns : ActivePoolData
  saved : Nat → Finset Nat

/-- The calls that change the active quests. -/
inductive QuestCall
  | spawnPool (poolId questId : Nat)
  | despawnPool (poolId : Nat)
  | saveQuestsToDB
  | restart
  deriving DecidableEq

namespace QuestPools

def empty : QuestPools := ⟨ActivePoolData.empty, fun _ => ∅⟩

variable (tables : PoolTables) (draws : Nat → Draw)

def saveQuestsToDB (s : QuestPools) : QuestPools :=
  { s with
    saved := fun poolId =>
      if (tables.group .quest poolId).isEmpty then s.saved poolId
      else s.spawns.activeQuests.filter fun questId =>
        tables.searchMap .quest questId = some poolId }

/-- `SpawnPool<Quest>`. A pool that was drawn without a trigger is saved. -/
def spawnPool (poolId questId : Nat) (s : QuestPools) : QuestPools :=
  let spawned : QuestPools :=
    { s with spawns := spawnGroup tables draws (fun _ s => s) .quest poolId questId s.spawns }
  if (tables.group .quest poolId).isEmpty = false ∧ questId = 0 ∧
      (draws s.spawns.drawn).saved = [] ∧
      (renewQuests tables draws poolId s.spawns.advance).1 ≠ ∅ then
    spawned.saveQuestsToDB tables
  else spawned

def step (s : QuestPools) : QuestCall → QuestPools
  | .spawnPool poolId questId => s.spawnPool tables draws poolId questId
  | .despawnPool poolId =>
    { s with spawns := despawnGroup tables (fun _ s => s) .quest poolId s.spawns }
  | .saveQuestsToDB => s.saveQuestsToDB tables
  | .restart => { s with spawns := { ActivePoolData.empty with drawn := s.spawns.drawn } }

/-- The active quests of a pool. -/
def active (s : QuestPools) (poolId : Nat) : Finset Nat :=
  s.spawns.activeQuests ∩ tables.quests poolId

end QuestPools

variable {tables : PoolTables} {draws : Nat → Draw} {s : ActivePoolData} {poolId : Nat}

/-! ### Drawing -/

theorem selectRandom_mem {draw : Draw} {objects : Finset Nat} {questId : Nat}
    (h : selectRandom draw objects = some questId) : questId ∈ objects :=
  (Finset.mem_sort _).mp (List.mem_of_getElem? h)

theorem selectRandom_eq_none {draw : Draw} {objects : Finset Nat}
    (h : selectRandom draw objects = none) : objects = ∅ := by
  rw [selectRandom, List.getElem?_eq_none_iff, Finset.length_sort] at h
  by_contra hne
  have hpos : 0 < objects.card := Finset.card_pos.mpr (Finset.nonempty_iff_ne_empty.mpr hne)
  exact absurd (Nat.mod_lt draw.index hpos) (Nat.not_lt.mpr h)

/-- As many quests as are missing are drawn again, if there are as many. -/
theorem recycleQuests_spec (draws : Nat → Draw) (s : ActivePoolData) {limit size : Nat}
    {currentQuests newQuests : Finset Nat}
    (hsize : currentQuests.card = size) (hdisj : Disjoint newQuests currentQuests)
    (hlt : newQuests.card < limit) :
    (recycleQuests draws limit size currentQuests newQuests s).2.activeQuests = s.activeQuests ∧
      ∃ drawn ⊆ currentQuests,
        (recycleQuests draws limit size currentQuests newQuests s).1 = newQuests ∪ drawn ∧
          drawn.card = min (limit - newQuests.card) currentQuests.card := by
  induction size generalizing currentQuests newQuests s with
  | zero =>
    refine ⟨rfl, ∅, Finset.empty_subset _, (Finset.union_empty _).symm, ?_⟩
    rw [hsize, Nat.min_zero, Finset.card_empty]
  | succ size ih =>
    rw [recycleQuests]
    cases hselect : selectRandom (draws s.drawn) currentQuests with
    | none =>
      rw [selectRandom_eq_none hselect] at hsize
      cases hsize
    | some questId =>
      have hmem := selectRandom_mem hselect
      have hnew : questId ∉ newQuests := fun hin => Finset.disjoint_left.mp hdisj hin hmem
      have hcard : (insert questId newQuests).card = newQuests.card + 1 :=
        Finset.card_insert_of_notMem hnew
      dsimp only
      split
      · next hless =>
          have herase : (currentQuests.erase questId).card = size := by
            rw [Finset.card_erase_of_mem hmem, hsize, Nat.add_sub_cancel]
          have hapart : Disjoint (insert questId newQuests) (currentQuests.erase questId) := by
            rw [Finset.disjoint_insert_left]
            exact ⟨Finset.notMem_erase _ _, hdisj.mono_right (Finset.erase_subset _ _)⟩
          obtain ⟨hactive, drawn, hsub, heq, hdrawn⟩ := ih s.advance herase hapart hless
          have hfresh : questId ∉ drawn := fun hin => Finset.notMem_erase _ _ (hsub hin)
          refine ⟨hactive, insert questId drawn, ?_, ?_, ?_⟩
          · exact Finset.insert_subset hmem (hsub.trans (Finset.erase_subset _ _))
          · rw [heq, Finset.insert_union, Finset.union_insert]
          · rw [Finset.card_insert_of_notMem hfresh, hdrawn, herase, hcard, hsize]
            omega
      · next hfull =>
          refine ⟨rfl, {questId}, Finset.singleton_subset_iff.mpr hmem, ?_, ?_⟩
          · exact (Finset.union_singleton _ _).symm
          · rw [Finset.card_singleton, hsize]
            omega

/-- Of the quests at hand as many are activated as the limit admits. -/
theorem activateQuests_spec (draws : Nat → Draw) (poolId : Nat) (s : ActivePoolData)
    {limit size : Nat} {newQuests : Finset Nat}
    (hsize : newQuests.card = size) (hpos : 1 ≤ limit) (hlimit : limit < 2 ^ 32) :
    ∃ chosen ⊆ newQuests, chosen.card = min limit newQuests.card ∧
      (activateQuests draws poolId size limit newQuests s).activeQuests =
        s.activeQuests ∪ chosen := by
  induction size generalizing limit newQuests s with
  | zero =>
    refine ⟨∅, Finset.empty_subset _, ?_, (Finset.union_empty _).symm⟩
    rw [hsize, Nat.min_zero, Finset.card_empty]
  | succ size ih =>
    rw [activateQuests]
    cases hselect : selectRandom (draws s.drawn) newQuests with
    | none =>
      rw [selectRandom_eq_none hselect] at hsize
      cases hsize
    | some questId =>
      have hmem := selectRandom_mem hselect
      have hless : uint32 ((limit : Int) - 1) = limit - 1 := by
        rw [uint32]
        omega
      have hactive : (s.advance.activateObject .quest questId poolId).activeQuests =
          insert questId s.activeQuests := rfl
      dsimp only
      rw [hless]
      split
      · next hlast =>
          refine ⟨{questId}, Finset.singleton_subset_iff.mpr hmem, ?_, ?_⟩
          · rw [Finset.card_singleton, hsize]
            omega
          · rw [hactive, Finset.union_singleton]
      · next hmore =>
          have herase : (newQuests.erase questId).card = size := by
            rw [Finset.card_erase_of_mem hmem, hsize, Nat.add_sub_cancel]
          have hone : 1 ≤ limit - 1 := Nat.pos_of_ne_zero hmore
          obtain ⟨chosen, hsub, hcard, hrest⟩ :=
            ih (s.advance.activateObject .quest questId poolId) herase hone (by omega)
          have hfresh : questId ∉ chosen := fun hin => Finset.notMem_erase _ _ (hsub hin)
          refine ⟨insert questId chosen, ?_, ?_, ?_⟩
          · exact Finset.insert_subset hmem (hsub.trans (Finset.erase_subset _ _))
          · rw [Finset.card_insert_of_notMem hfresh, hcard, herase, hsize]
            omega
          · rw [hrest, hactive, Finset.insert_union, Finset.union_insert]

theorem loadSaved_spec {limit : Nat} (saved : List Nat) (hpos : 1 ≤ limit)
    (hlimit : limit < 2 ^ 32) :
    (loadSaved poolId limit saved s).activeQuests =
      s.activeQuests ∪ (saved.take limit).toFinset := by
  induction saved generalizing limit s with
  | nil => simp [loadSaved]
  | cons questId rest ih =>
    have hless : uint32 ((limit : Int) - 1) = limit - 1 := by
      rw [uint32]
      omega
    have hactive : (s.activateObject .quest questId poolId).activeQuests =
        insert questId s.activeQuests := rfl
    obtain ⟨left, rfl⟩ := Nat.exists_eq_add_of_le' hpos
    rw [loadSaved, hless, Nat.add_sub_cancel, List.take_succ_cons, List.toFinset_cons,
      Finset.union_insert]
    split
    · next hlast =>
        rw [hactive, hlast, List.take_zero, List.toFinset_nil, Finset.union_empty]
    · next hmore =>
        rw [ih (by omega) (by omega), hactive, Finset.insert_union]

theorem despawnQuests_spec (poolId : Nat) (s : ActivePoolData) (group : PoolGroup) :
    (group.despawnObject .quest poolId (fun _ s => s) 0 s).activeQuests =
      s.activeQuests \ group.guids.toFinset := by
  rw [PoolGroup.despawnObject]
  induction group.guids generalizing s with
  | nil => simp
  | cons questId rest ih =>
    have hremoved : (s.removeObject .quest questId poolId).activeQuests =
        s.activeQuests.erase questId := rfl
    rw [List.foldl_cons, ih, List.toFinset_cons, Finset.sdiff_insert]
    split
    · rw [hremoved, Finset.erase_sdiff_comm]
    · next hidle =>
        have hnot : questId ∉ s.activeQuests := by
          simpa [isActiveObject] using hidle
        rw [Finset.erase_eq_of_notMem]
        exact fun hin => hnot (Finset.mem_sdiff.mp hin).1

/-- The pool is cleared. On offer are its quests that were not active and, if these are too few,
quests that were active. -/
theorem renewQuests_spec (hdisj : tables.DisjointQuests) (draws : Nat → Draw) (poolId : Nat)
    (s : ActivePoolData) :
    (renewQuests tables draws poolId s).2.activeQuests = s.activeQuests \ tables.quests poolId ∧
      ∃ drawn ⊆ s.activeQuests,
        (renewQuests tables draws poolId s).1 = tables.quests poolId \ s.activeQuests ∪ drawn ∧
          drawn.card = min (tables.maxLimit poolId - (tables.quests poolId \ s.activeQuests).card)
            s.activeQuests.card := by
  have hnew : ((tables.group .quest poolId).equalChanced.filter fun questId =>
      !s.isActiveObject .quest questId).toFinset = tables.quests poolId \ s.activeQuests := by
    ext questId
    simp [PoolTables.quests, isActiveObject]
  have hguids : (tables.group .quest poolId).guids.toFinset = tables.quests poolId := by
    rw [PoolGroup.guids, hdisj.equalChanced, List.append_nil, PoolTables.quests]
  have hcleared := despawnQuests_spec poolId s (tables.group .quest poolId)
  rw [hguids] at hcleared
  rw [renewQuests, hnew]
  split
  · next hfew =>
      obtain ⟨hactive, hdrawn⟩ := recycleQuests_spec draws
        ((tables.group .quest poolId).despawnObject .quest poolId (fun _ s => s) 0 s) rfl
        (Finset.sdiff_disjoint (s := s.activeQuests) (t := tables.quests poolId)) hfew.1
      exact ⟨hactive.trans hcleared, hdrawn⟩
  · next henough =>
      refine ⟨hcleared, ∅, Finset.empty_subset _, (Finset.union_empty _).symm, ?_⟩
      rw [Finset.card_empty, eq_comm, Nat.min_eq_zero_iff, Nat.sub_eq_zero_iff_le,
        Finset.card_eq_zero]
      by_contra hnone
      rw [not_or, not_le] at hnone
      exact henough hnone

/-- What drawing leaves active: what the other pools have, and as many quests as the limit admits of
those on offer. -/
theorem spawnQuests_drawn (hdisj : tables.DisjointQuests) (hpos : 1 ≤ tables.maxLimit poolId)
    {triggerFrom : Nat} (hfresh : ¬ (triggerFrom = 0 ∧ (draws s.drawn).saved ≠ [])) :
    ∃ drawn ⊆ s.activeQuests,
      drawn.card = min (tables.maxLimit poolId - (tables.quests poolId \ s.activeQuests).card)
        s.activeQuests.card ∧
      ∃ chosen ⊆ tables.quests poolId \ s.activeQuests ∪ drawn,
        chosen.card = min (tables.maxLimit poolId)
          ((tables.quests poolId \ s.activeQuests).card + drawn.card) ∧
        (spawnQuests tables draws poolId triggerFrom s).activeQuests =
          s.activeQuests \ tables.quests poolId ∪ chosen := by
  obtain ⟨hcleared, drawn, hsub, hoffer, hcard⟩ :=
    renewQuests_spec hdisj draws poolId s.advance
  obtain ⟨chosen, hchosen, hcount, hactive⟩ := activateQuests_spec draws poolId
    (renewQuests tables draws poolId s.advance).2
    (Eq.refl (renewQuests tables draws poolId s.advance).1.card) hpos (tables.maxLimit_lt poolId)
  have happart : Disjoint (tables.quests poolId \ s.activeQuests) drawn :=
    Finset.sdiff_disjoint.mono_right hsub
  refine ⟨drawn, hsub, hcard, chosen, hoffer ▸ hchosen, ?_, ?_⟩
  · rw [hcount, hoffer]
    exact congrArg _ (Finset.card_union_of_disjoint happart)
  · rw [spawnQuests]
    dsimp only
    rw [if_neg hfresh, hactive, hcleared]
    rfl

/-! ### What a pool gets -/

/-- When quests are missing, those that are drawn again are the pool's own, or as many of them as
there are. -/
theorem card_drawn_inter {own current drawn : Finset Nat} {missing : Nat} (hsub : drawn ⊆ current)
    (hcard : drawn.card = min missing current.card)
    (h : current ∩ own = ∅ ∨ current ⊆ own ∨ current.card ≤ missing) :
    (drawn ∩ own).card = min missing (current ∩ own).card := by
  obtain hnone | hown | hall := h
  · have hempty : drawn ∩ own = ∅ :=
      Finset.subset_empty.mp (hnone ▸ Finset.inter_subset_inter_right hsub)
    rw [hempty, hnone, Finset.card_empty, Nat.min_zero]
  · rw [Finset.inter_eq_left.mpr (hsub.trans hown), Finset.inter_eq_left.mpr hown, hcard]
  · have heq : drawn = current := Finset.eq_of_subset_of_card_le hsub (by omega)
    have hle : (current ∩ own).card ≤ current.card := Finset.card_le_card Finset.inter_subset_left
    rw [heq]
    omega

/-- Of the pool's own quests as many are chosen as the limit admits. -/
theorem card_chosen_inter {own current drawn chosen : Finset Nat} {limit : Nat}
    (hsub : drawn ⊆ current) (hdrawn : drawn.card = min (limit - (own \ current).card) current.card)
    (hchosen : chosen ⊆ own \ current ∪ drawn)
    (hcount : chosen.card = min limit ((own \ current).card + drawn.card))
    (h : limit ≤ (own \ current).card ∨ current ∩ own = ∅ ∨ current ⊆ own ∨
      (own ∪ current).card ≤ limit) :
    (chosen ∩ own).card = min limit own.card := by
  have hown : (own \ current).card + (current ∩ own).card = own.card := by
    rw [Finset.inter_comm, Finset.card_sdiff_add_card_inter]
  have happart : Disjoint (own \ current) drawn := Finset.sdiff_disjoint.mono_right hsub
  obtain hfew | henough := Nat.lt_or_ge (own \ current).card limit
  · have heq : chosen = own \ current ∪ drawn := by
      refine Finset.eq_of_subset_of_card_le hchosen ?_
      rw [Finset.card_union_of_disjoint happart]
      omega
    have hinter : (drawn ∩ own).card = min (limit - (own \ current).card) (current ∩ own).card := by
      refine card_drawn_inter hsub hdrawn ?_
      refine (h.resolve_left (Nat.not_le.mpr hfew)).imp_right (Or.imp_right fun hall => ?_)
      rw [← Finset.sdiff_union_self_eq_union, Finset.card_union_of_disjoint
        Finset.sdiff_disjoint] at hall
      omega
    rw [heq, Finset.union_inter_distrib_right, Finset.inter_eq_left.mpr Finset.sdiff_subset,
      Finset.card_union_of_disjoint (happart.mono_right Finset.inter_subset_left), hinter]
    omega
  · have hnone : drawn = ∅ := Finset.card_eq_zero.mp (by omega)
    rw [hnone, Finset.union_empty] at hchosen
    rw [Finset.inter_eq_left.mpr (hchosen.trans Finset.sdiff_subset), hcount]
    omega

namespace QuestPools

/-- The pool has as many of its quests active as it should, and nothing changed for other pools. -/
structure Separate (tables : PoolTables) (s : QuestPools) (poolId : Nat) (s' : QuestPools) :
    Prop where
  filled : (s'.active tables poolId).card = tables.share poolId
  others : ∀ other, other ≠ poolId → s'.active tables other = s.active tables other

/-- What a call needs to fill the pool: a limit, and when saved quests are loaded, that the active
ones are among them. When quests are drawn, there are enough that were not active, or none of the
pool was active, or none of another pool, or all of them are within the limit. -/
def Refills (tables : PoolTables) (s : QuestPools) (poolId questId : Nat) : Prop :=
  1 ≤ tables.maxLimit poolId ∧
    if questId = 0 ∧ s.saved poolId ≠ ∅ then s.active tables poolId ⊆ s.saved poolId
    else tables.maxLimit poolId ≤ (tables.quests poolId \ s.spawns.activeQuests).card ∨
      s.active tables poolId = ∅ ∨ s.spawns.activeQuests ⊆ tables.quests poolId ∨
      (tables.quests poolId ∪ s.spawns.activeQuests).card ≤ tables.maxLimit poolId

/-- The query returns the saved quests, each once. -/
def Answered (draws : Nat → Draw) (s : QuestPools) (poolId questId : Nat) : Prop :=
  questId = 0 →
    (draws s.spawns.drawn).saved.Nodup ∧ (draws s.spawns.drawn).saved.toFinset = s.saved poolId

/-- Every pool has none of its quests active or as many as it should, and the same of its rows. -/
structure Filled (tables : PoolTables) (s : QuestPools) : Prop where
  active : ∀ poolId, s.active tables poolId = ∅ ∨
    (s.active tables poolId).card = tables.share poolId
  saved_subset : ∀ poolId, s.saved poolId ⊆ tables.quests poolId
  saved : ∀ poolId, s.saved poolId = ∅ ∨ (s.saved poolId).card = tables.share poolId

end QuestPools

theorem PoolTables.DisjointQuests.disjoint (hdisj : tables.DisjointQuests) {other : Nat}
    (hne : other ≠ poolId) : Disjoint (tables.quests other) (tables.quests poolId) := by
  rw [Finset.disjoint_left]
  intro questId hother hown
  have hmem : ∀ pool, questId ∈ tables.quests pool →
      tables.searchMap .quest questId = some pool := by
    intro pool hin
    refine hdisj.searchMap_eq (List.mem_append_left _ ?_)
    exact List.mem_toFinset.mp hin
  exact hne (Option.some.inj ((hmem other hother).symm.trans (hmem poolId hown)))

theorem PoolTables.DisjointQuests.searchMap_iff (hdisj : tables.DisjointQuests) {questId : Nat} :
    tables.searchMap .quest questId = some poolId ↔ questId ∈ tables.quests poolId := by
  constructor
  · intro h
    have hmem := tables.searchMap_mem h
    rw [PoolGroup.guids, hdisj.equalChanced, List.append_nil] at hmem
    exact List.mem_toFinset.mpr hmem
  · intro h
    exact hdisj.searchMap_eq (List.mem_append_left _ (List.mem_toFinset.mp h))

namespace QuestPools

variable {s : QuestPools} {questId : Nat}

theorem Filled.saveQuestsToDB (h : s.Filled tables) (hdisj : tables.DisjointQuests) :
    (s.saveQuestsToDB tables).Filled tables := by
  have hsaved : ∀ poolId, (s.saveQuestsToDB tables).saved poolId = s.saved poolId ∨
      (s.saveQuestsToDB tables).saved poolId = s.active tables poolId := by
    intro poolId
    rw [QuestPools.saveQuestsToDB]
    dsimp only
    split
    · exact Or.inl rfl
    · refine Or.inr ?_
      ext questId
      rw [Finset.mem_filter, hdisj.searchMap_iff, QuestPools.active, Finset.mem_inter]
  refine ⟨h.active, fun poolId => ?_, fun poolId => ?_⟩
  · obtain hsame | hactive := hsaved poolId
    · rw [hsame]
      exact h.saved_subset poolId
    · rw [hactive]
      exact Finset.inter_subset_right
  · obtain hsame | hactive := hsaved poolId
    · rw [hsame]
      exact h.saved poolId
    · rw [hactive]
      exact h.active poolId

theorem spawns_spawnPool (tables : PoolTables) (draws : Nat → Draw) (poolId questId : Nat)
    (s : QuestPools) : (s.spawnPool tables draws poolId questId).spawns =
      spawnGroup tables draws (fun _ s => s) .quest poolId questId s.spawns := by
  rw [spawnPool]
  split
  · rfl
  · rfl

/-- Loading activates the saved quests of the pool. -/
theorem separate_loaded (hdisj : tables.DisjointQuests) (h : s.Filled tables)
    (hrefills : s.Refills tables poolId questId) (hanswered : s.Answered draws poolId questId)
    (hload : questId = 0 ∧ (draws s.spawns.drawn).saved ≠ []) {s' : QuestPools}
    (hs' : s'.spawns = spawnQuests tables draws poolId questId s.spawns) :
    Separate tables s poolId s' := by
  obtain ⟨hnodup, hrows⟩ := hanswered hload.1
  have hsome : s.saved poolId ≠ ∅ := by
    rw [← hrows]
    exact fun hnone => hload.2 (List.toFinset_eq_empty_iff _ |>.mp hnone)
  have hwithin : s.active tables poolId ⊆ s.saved poolId := by
    have hcond := hrefills.2
    rwa [if_pos ⟨hload.1, hsome⟩] at hcond
  have hcard := (h.saved poolId).resolve_left hsome
  have hlength : (draws s.spawns.drawn).saved.length ≤ tables.maxLimit poolId := by
    rw [← List.toFinset_card_of_nodup hnodup, hrows, hcard]
    exact Nat.min_le_left _ _
  have hactive : s'.spawns.activeQuests = s.spawns.activeQuests ∪ s.saved poolId := by
    rw [hs', spawnQuests]
    dsimp only
    rw [if_pos hload, loadSaved_spec _ hrefills.1 (tables.maxLimit_lt poolId),
      List.take_of_length_le hlength, hrows]
    rfl
  constructor
  · rw [active, hactive, Finset.union_inter_distrib_right]
    change (s.active tables poolId ∪ _).card = _
    rw [Finset.inter_eq_left.mpr (h.saved_subset poolId), Finset.union_eq_right.mpr hwithin, hcard]
  · intro other hne
    have hnone : s.saved poolId ∩ tables.quests other = ∅ :=
      Finset.disjoint_iff_inter_eq_empty.mp
        ((hdisj.disjoint hne).symm.mono_left (h.saved_subset poolId))
    rw [active, hactive, Finset.union_inter_distrib_right, hnone, Finset.union_empty, active]

/-- Drawing replaces the quests of the pool. -/
theorem separate_drawn (hdisj : tables.DisjointQuests) (hrefills : s.Refills tables poolId questId)
    (hanswered : s.Answered draws poolId questId)
    (hfresh : ¬ (questId = 0 ∧ (draws s.spawns.drawn).saved ≠ [])) {s' : QuestPools}
    (hs' : s'.spawns = spawnQuests tables draws poolId questId s.spawns) :
    Separate tables s poolId s' := by
  obtain ⟨drawn, hsub, hdrawn, chosen, hchosen, hcount, hactive⟩ :=
    spawnQuests_drawn hdisj hrefills.1 hfresh
  rw [← hs'] at hactive
  have hcond : tables.maxLimit poolId ≤ (tables.quests poolId \ s.spawns.activeQuests).card ∨
      s.spawns.activeQuests ∩ tables.quests poolId = ∅ ∨
      s.spawns.activeQuests ⊆ tables.quests poolId ∨
      (tables.quests poolId ∪ s.spawns.activeQuests).card ≤ tables.maxLimit poolId := by
    have hcond := hrefills.2
    rw [if_neg] at hcond
    · exact hcond
    · rintro ⟨hzero, hsome⟩
      refine hfresh ⟨hzero, fun hnil => hsome ?_⟩
      rw [← (hanswered hzero).2, hnil, List.toFinset_nil]
  constructor
  · rw [active, hactive, Finset.union_inter_distrib_right, Finset.sdiff_inter_self,
      Finset.empty_union, card_chosen_inter hsub hdrawn hchosen hcount hcond, PoolTables.share]
  · intro other hne
    ext quest
    have hapart : quest ∈ tables.quests other → quest ∉ tables.quests poolId :=
      fun hother hown => Finset.disjoint_left.mp (hdisj.disjoint hne) hother hown
    have hback : quest ∈ chosen → quest ∉ tables.quests poolId → quest ∈ s.spawns.activeQuests := by
      intro hin hnot
      obtain hnew | hold := Finset.mem_union.mp (hchosen hin)
      · exact absurd (Finset.mem_sdiff.mp hnew).1 hnot
      · exact hsub hold
    rw [active, active, hactive, Finset.mem_inter, Finset.mem_inter, Finset.mem_union,
      Finset.mem_sdiff]
    constructor
    · rintro ⟨hold | hin, hother⟩
      · exact ⟨hold.1, hother⟩
      · exact ⟨hback hin (hapart hother), hother⟩
    · rintro ⟨hold, hother⟩
      exact ⟨Or.inl ⟨hold, hapart hother⟩, hother⟩

theorem separate_spawnPool (hdisj : tables.DisjointQuests) (h : s.Filled tables)
    (hrefills : (tables.group .quest poolId).isEmpty = false → s.Refills tables poolId questId)
    (hanswered : s.Answered draws poolId questId) :
    Separate tables s poolId (s.spawnPool tables draws poolId questId) := by
  have hspawns := spawns_spawnPool tables draws poolId questId s
  rw [spawnGroup] at hspawns
  split at hspawns
  · next hempty =>
      have hnone : tables.quests poolId = ∅ := by
        rw [PoolGroup.isEmpty, Bool.and_eq_true, List.isEmpty_iff, List.isEmpty_iff] at hempty
        rw [PoolTables.quests, hempty.2, List.toFinset_nil]
      constructor
      · rw [active, hspawns, PoolTables.share, hnone, Finset.inter_empty, Finset.card_empty,
          Nat.min_zero]
      · intro other _
        rw [active, hspawns, active]
  · next hmembers =>
      have hcond := hrefills (Bool.eq_false_iff.mpr hmembers)
      by_cases hload : questId = 0 ∧ (draws s.spawns.drawn).saved ≠ []
      · exact separate_loaded hdisj h hcond hanswered hload hspawns
      · exact separate_drawn hdisj hcond hanswered hload hspawns

/-- The condition on a call, with the answer of the database. -/
def Allowed (tables : PoolTables) (draws : Nat → Draw) (s : QuestPools) : QuestCall → Prop
  | .spawnPool poolId questId => s.Answered draws poolId questId ∧
      ((tables.group .quest poolId).isEmpty = false → s.Refills tables poolId questId)
  | _ => True

theorem Separate.filled_active {s' : QuestPools} (h : Separate tables s poolId s')
    (hs : s.Filled tables) (other : Nat) :
    s'.active tables other = ∅ ∨ (s'.active tables other).card = tables.share other := by
  by_cases hne : other = poolId
  · rw [hne]
    exact Or.inr h.filled
  · rw [h.others other hne]
    exact hs.active other

theorem Filled.step (h : s.Filled tables) (hdisj : tables.DisjointQuests) {call : QuestCall}
    (hallowed : s.Allowed tables draws call) : (s.step tables draws call).Filled tables := by
  cases call with
  | spawnPool poolId questId =>
    have hsep := separate_spawnPool hdisj h hallowed.2 hallowed.1
    have hactive := hsep.filled_active h
    have hspawned : Filled tables { s with
        spawns := spawnGroup tables draws (fun _ s => s) .quest poolId questId s.spawns } := by
      rw [← spawns_spawnPool]
      exact ⟨hactive, h.saved_subset, h.saved⟩
    rw [QuestPools.step, QuestPools.spawnPool]
    split
    · exact hspawned.saveQuestsToDB hdisj
    · exact hspawned
  | despawnPool poolId =>
    refine ⟨fun other => ?_, h.saved_subset, h.saved⟩
    have hspawns : (s.step tables draws (.despawnPool poolId)).spawns =
        despawnGroup tables (fun _ s => s) .quest poolId s.spawns := rfl
    rw [QuestPools.active, hspawns, despawnGroup]
    split
    · exact h.active other
    · have hguids : (tables.group .quest poolId).guids.toFinset = tables.quests poolId := by
        rw [PoolGroup.guids, hdisj.equalChanced, List.append_nil, PoolTables.quests]
      have hidle : onSubPool (fun _ s => s) PoolKind.quest = fun _ s => s := rfl
      rw [hidle, despawnQuests_spec, hguids]
      by_cases hne : other = poolId
      · rw [hne, Finset.sdiff_inter_self]
        exact Or.inl rfl
      · rw [Finset.sdiff_inter_right_comm, Finset.sdiff_eq_self_of_disjoint]
        · exact h.active other
        · exact (hdisj.disjoint hne).mono_left Finset.inter_subset_right
  | saveQuestsToDB => exact h.saveQuestsToDB hdisj
  | restart =>
    refine ⟨fun other => Or.inl ?_, h.saved_subset, h.saved⟩
    exact Finset.empty_inter _

theorem filled_empty (tables : PoolTables) : empty.Filled tables :=
  ⟨fun _ => Or.inl (Finset.empty_inter _), fun _ => Finset.empty_subset _, fun _ => Or.inl rfl⟩

/-- In a run whose calls have what they need, every quest pool is filled with its own quests. -/
theorem separate_of_run (hdisj : tables.DisjointQuests) {calls : List QuestCall}
    (h : Runs.Admissible (step tables draws) (Allowed tables draws) empty calls)
    {before : List QuestCall} (hbefore : before ++ [.spawnPool poolId questId] <+: calls) :
    Separate tables (Runs.run (step tables draws) empty before) poolId
      (Runs.run (step tables draws) empty (before ++ [.spawnPool poolId questId])) := by
  have hfilled := h.invariant (P := Filled tables)
    (fun hs hallowed => Filled.step hs hdisj hallowed) (filled_empty tables)
    ((List.prefix_append _ _).trans hbefore)
  have hallowed := h.allowed hbefore
  have hlast : Runs.run (step tables draws) empty (before ++ [.spawnPool poolId questId]) =
      (Runs.run (step tables draws) empty before).spawnPool tables draws poolId questId :=
    List.foldl_append
  rw [hlast]
  exact separate_spawnPool hdisj hfilled hallowed.2 hallowed.1

/-! ### Two pools of one quest -/

def aQuestGroup : PoolKind → Nat → PoolGroup
  | .quest, 1 => ⟨[], [1]⟩
  | .quest, 2 => ⟨[], [2]⟩
  | _, _ => ⟨[], []⟩

def aQuestSearchMap : PoolKind → Nat → Option Nat
  | .quest, 1 => some 1
  | .quest, 2 => some 2
  | _, _ => none

theorem aQuestSearchMap_mem {kind : PoolKind} {guid poolId : Nat}
    (h : aQuestSearchMap kind guid = some poolId) : guid ∈ (aQuestGroup kind poolId).guids := by
  unfold aQuestSearchMap at h
  split at h
  · cases h
    exact List.mem_singleton_self 1
  · cases h
    exact List.mem_singleton_self 2
  · cases h

theorem aQuestSearchMap_eq {kind : PoolKind} {guid poolId : Nat}
    (h : guid ∈ (aQuestGroup kind poolId).guids) : aQuestSearchMap kind guid = some poolId := by
  unfold aQuestGroup at h
  split at h
  · obtain rfl := List.mem_singleton.mp h
    rfl
  · obtain rfl := List.mem_singleton.mp h
    rfl
  · cases h

theorem aQuestGroup_pool {poolId child : Nat} (h : child ∈ (aQuestGroup .pool poolId).guids) :
    0 < 0 := by
  have hnone : aQuestSearchMap .pool child = none := rfl
  rw [aQuestSearchMap_eq h] at hnone
  cases hnone

theorem one_lt_pow : 1 < 2 ^ 32 := by decide

def questTables : PoolTables where
  maxLimit := fun _ => 1
  group := aQuestGroup
  searchMap := aQuestSearchMap
  rank := fun _ => 0
  maxLimit_lt := fun _ => one_lt_pow
  searchMap_mem := aQuestSearchMap_mem
  searchMap_isSome := fun h => Option.isSome_iff_exists.mpr ⟨_, aQuestSearchMap_eq h⟩
  rank_lt := aQuestGroup_pool

theorem questTables_disjoint : questTables.DisjointQuests where
  equalChanced := by
    intro poolId
    change (aQuestGroup .quest poolId).explicitlyChanced = []
    unfold aQuestGroup
    split
    · rfl
    · rfl
    · rfl
  searchMap_eq := aQuestSearchMap_eq

/-- The database has no rows, and of two quests the second is drawn. -/
def secondDraw : Nat → Draw := fun _ => ⟨fun _ => false, 1, []⟩

theorem selectRandom_second (n : Nat) : selectRandom (secondDraw n) {1, 2} = some 2 := by
  have hsort : Finset.sort ({1, 2} : Finset Nat) (· ≤ ·) = [1, 2] := by
    have hle : ∀ b ∈ ({2} : Finset Nat), 1 ≤ b := by decide
    have hnot : 1 ∉ ({2} : Finset Nat) := by decide
    rw [Finset.sort_insert (· ≤ ·) hle hnot, Finset.sort_singleton]
  rw [selectRandom, hsort]
  rfl

/-- The second quest is drawn again for the first pool. -/
theorem renewQuests_second {s : ActivePoolData} (h : s.activeQuests = {1, 2}) :
    (renewQuests questTables secondDraw 1 s).1 = {2} := by
  have hnew : ((questTables.group .quest 1).equalChanced.filter fun questId =>
      !s.isActiveObject .quest questId).toFinset = ∅ := by
    simp [questTables, aQuestGroup, isActiveObject, h]
  rw [renewQuests, hnew, h]
  rw [if_pos (by decide), Finset.card_pair (by decide), recycleQuests, selectRandom_second]
  rfl

theorem activeQuests_second {s : QuestPools} (h : s.spawns.activeQuests = {1, 2}) :
    (s.spawnPool questTables secondDraw 1 1).spawns.activeQuests ⊆ {2} := by
  have hoffer := renewQuests_second (s := s.spawns.advance) h
  obtain ⟨hcleared, -⟩ := renewQuests_spec questTables_disjoint secondDraw 1 s.spawns.advance
  obtain ⟨chosen, hchosen, -, hactive⟩ := activateQuests_spec secondDraw 1
    (renewQuests questTables secondDraw 1 s.spawns.advance).2
    (Eq.refl (renewQuests questTables secondDraw 1 s.spawns.advance).1.card) le_rfl one_lt_pow
  have hrest : s.spawns.advance.activeQuests \ questTables.quests 1 = {2} := by
    change s.spawns.activeQuests \ {1} = {2}
    rw [h]
    decide
  rw [hoffer] at hchosen
  rw [hcleared, hrest] at hactive
  rw [spawns_spawnPool, spawnGroup, if_neg (by decide)]
  refine (Finset.subset_of_eq hactive).trans ?_
  exact Finset.union_subset (Finset.Subset.refl _) hchosen

/-- Both pools are filled. When the first one is updated, its place goes to the quest of the second
pool, and it has none. -/
theorem foreignQuest_takesPlace :
    questTables.DisjointQuests ∧
      Runs.Admissible (step questTables secondDraw)
        (fun s call => ∀ poolId questId, call = .spawnPool poolId questId →
          s.Answered secondDraw poolId questId)
        empty [.spawnPool 1 0, .spawnPool 2 0, .spawnPool 1 1] ∧
      ¬ Separate questTables
        (Runs.run (step questTables secondDraw) empty [.spawnPool 1 0, .spawnPool 2 0]) 1
        (Runs.run (step questTables secondDraw) empty
          [.spawnPool 1 0, .spawnPool 2 0, .spawnPool 1 1]) := by
  refine ⟨questTables_disjoint, ⟨?_, ?_, ?_, trivial⟩, ?_⟩
  · intro poolId questId hcall _
    cases hcall
    exact ⟨List.nodup_nil, rfl⟩
  · intro poolId questId hcall _
    cases hcall
    exact ⟨List.nodup_nil, by decide +kernel⟩
  · intro poolId questId hcall hzero
    cases hcall
    cases hzero
  · intro h
    have hboth : (Runs.run (step questTables secondDraw) empty
        [.spawnPool 1 0, .spawnPool 2 0]).spawns.activeQuests = {1, 2} := by decide +kernel
    have hfilled := h.filled
    have hnone : (Runs.run (step questTables secondDraw) empty
        [.spawnPool 1 0, .spawnPool 2 0, .spawnPool 1 1]).active questTables 1 = ∅ := by
      refine Finset.subset_empty.mp ?_
      refine (Finset.inter_subset_inter_right (activeQuests_second hboth)).trans ?_
      decide
    rw [hnone] at hfilled
    cases hfilled

/-- Both pools have their quests. The first one is despawned and draws again while the quest of the
second one is active. -/
theorem separate_of_run_besideOther :
    Separate questTables
      (Runs.run (step questTables secondDraw) empty
        [.spawnPool 2 0, .spawnPool 1 0, .despawnPool 1]) 1
      (Runs.run (step questTables secondDraw) empty
        [.spawnPool 2 0, .spawnPool 1 0, .despawnPool 1, .spawnPool 1 1]) := by
  have hrun : Runs.Admissible (step questTables secondDraw) (Allowed questTables secondDraw) empty
      [.spawnPool 2 0, .spawnPool 1 0, .despawnPool 1, .spawnPool 1 1] := by
    refine ⟨⟨?_, ?_⟩, ⟨?_, ?_⟩, trivial, ⟨?_, ?_⟩, trivial⟩
    · exact fun _ => ⟨List.nodup_nil, rfl⟩
    · refine fun _ => ⟨le_rfl, ?_⟩
      rw [if_neg (fun hand => hand.2 rfl)]
      exact Or.inr (Or.inl (Finset.empty_inter _))
    · exact fun _ => ⟨List.nodup_nil, by decide +kernel⟩
    · refine fun _ => ⟨le_rfl, ?_⟩
      rw [if_neg (by decide +kernel)]
      exact Or.inr (Or.inl (by decide +kernel))
    · intro hzero
      cases hzero
    · refine fun _ => ⟨le_rfl, ?_⟩
      rw [if_neg (fun hand => absurd hand.1 (by decide))]
      exact Or.inr (Or.inl (by decide +kernel))
  have hbefore : [QuestCall.spawnPool 2 0, .spawnPool 1 0, .despawnPool 1] ++ [.spawnPool 1 1] <+:
      [.spawnPool 2 0, .spawnPool 1 0, .despawnPool 1, .spawnPool 1 1] := List.prefix_refl _
  exact separate_of_run questTables_disjoint hrun hbefore

end QuestPools

end Cataclysm.Pools
