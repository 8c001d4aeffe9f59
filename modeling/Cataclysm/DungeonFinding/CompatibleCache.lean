import Cataclysm.DungeonFinding.LFGQueue

/-!
# The cache of compatible combinations

`RemoveFromQueue` drops the cached combinations of a guid and the best combinations that
name it, and looks for new best ones. Whether a key names a guid is decided by a search
for the digits of the guid anywhere in the key, so `12|13` also names the guids 1, 2 and 3.

## Implementation notes

`lists` is what the key says: the guid is one of its elements. `IsWidest` describes the
first of the widest keys in the order of the map.
-/

namespace Cataclysm.Lfg

variable {key : CacheKey} {guid : Guid}

/-- The guid is an element of the `|`-separated list. -/
def lists (key : CacheKey) (guid : Guid) : Bool := guidText guid ∈ key.splitOn '|'

theorem infix_intercalate {text : CacheKey} {parts : List CacheKey} (h : text ∈ parts) :
    text <:+: ['|'].intercalate parts := by
  induction parts with
  | nil => cases h
  | cons part rest ih =>
    cases rest with
    | nil =>
      obtain rfl := List.mem_singleton.mp h
      simp [List.intercalate]
    | cons next rest =>
      have hsplit : ['|'].intercalate (part :: next :: rest) =
          part ++ ('|' :: ['|'].intercalate (next :: rest)) := by
        simp [List.intercalate]
      rw [hsplit]
      rcases List.mem_cons.mp h with rfl | hrest
      · exact (List.prefix_append _ _).isInfix
      · exact (ih hrest).trans ((List.suffix_cons _ _).trans (List.suffix_append _ _)).isInfix

/-- A key mentions the guids that it lists. -/
theorem mentions_of_lists (h : lists key guid = true) : mentions key guid = true := by
  have hinfix := infix_intercalate (of_decide_eq_true h)
  rw [List.intercalate_splitOn] at hinfix
  exact decide_eq_true hinfix

theorem ne_nil_of_mentions (h : mentions key guid = true) : key ≠ [] := by
  rintro rfl
  have hnil : guidText guid = [] := List.infix_nil.mp (of_decide_eq_true h)
  exact Nat.toDigits_ne_nil hnil

/-! ## The best combination -/

/-- The size that a new best combination has to exceed. -/
def storedSize (best : CacheKey) : Nat := if best = [] then 0 else keySize best

/-- The first of the widest keys. -/
def IsWidest (keys : List CacheKey) (key : CacheKey) : Prop :=
  ∃ before after, keys = before ++ key :: after ∧ 0 < keySize key ∧
    (∀ other ∈ before, keySize other < keySize key) ∧
    ∀ other ∈ after, keySize other ≤ keySize key

/-- A key takes the place of the best one so far. -/
def pickWider (best key : CacheKey) : CacheKey :=
  if keySize key ≤ storedSize best then best else key

theorem LfgQueueData.bestCompatible_update (view : LfgView) (key : CacheKey)
    (roles : LfgRolesMap) (data : LfgQueueData) :
    (data.updateBestCompatible view key roles).bestCompatible =
      pickWider data.bestCompatible key := by
  have htake : ∀ (roles : List (Guid × UInt8)) (data : LfgQueueData),
      (roles.foldl (fun data entry => data.takeRole entry.2) data).bestCompatible =
        data.bestCompatible := by
    intro roles
    induction roles with
    | nil => intro data; rfl
    | cons entry rest ih =>
      intro data
      rw [List.foldl_cons, ih, takeRole]
      split_ifs <;> rfl
  by_cases h : keySize key ≤ storedSize data.bestCompatible
  · have hsame : data.updateBestCompatible view key roles = data := if_pos h
    rw [hsame, pickWider, if_pos h]
  · have hnew : data.updateBestCompatible view key roles =
        roles.entries.foldl (fun data entry => data.takeRole entry.2)
          (initializeGroupSetup view { data with bestCompatible := key }) := if_neg h
    rw [hnew, pickWider, if_neg h, htake, initializeGroupSetup]
    split <;> rfl

/-- From a best key, the search keeps it or ends with the first of the widest keys that
exceed it. -/
theorem foldl_pickWider (keys : List CacheKey) (hkeys : ∀ key ∈ keys, key ≠ [])
    (best : CacheKey) :
    (keys.foldl pickWider best = best ∧ ∀ key ∈ keys, keySize key ≤ storedSize best) ∨
      (IsWidest keys (keys.foldl pickWider best) ∧
        storedSize best < keySize (keys.foldl pickWider best)) := by
  induction keys generalizing best with
  | nil => exact Or.inl ⟨rfl, by simp⟩
  | cons key rest ih =>
    have hrest := ih (fun other hother => hkeys other (List.mem_cons_of_mem _ hother))
      (pickWider best key)
    rw [List.foldl_cons]
    by_cases hle : keySize key ≤ storedSize best
    · have hpick : pickWider best key = best := if_pos hle
      rw [hpick] at hrest ⊢
      rcases hrest with ⟨heq, hall⟩ | ⟨⟨before, after, heq, hpos, hbefore, hafter⟩, hlt⟩
      · exact Or.inl ⟨heq, List.forall_mem_cons.mpr ⟨hle, hall⟩⟩
      · refine Or.inr ⟨⟨key :: before, after, congrArg (key :: ·) heq, hpos, ?_, hafter⟩, hlt⟩
        exact List.forall_mem_cons.mpr ⟨hle.trans_lt hlt, hbefore⟩
    · have hpick : pickWider best key = key := if_neg hle
      have hstored : storedSize key = keySize key := if_neg (hkeys key List.mem_cons_self)
      have hlarger : storedSize best < keySize key := Nat.lt_of_not_le hle
      rw [hpick, hstored] at hrest
      rw [hpick]
      right
      rcases hrest with ⟨heq, hall⟩ | ⟨⟨before, after, heq, hpos, hbefore, hafter⟩, hlt⟩
      · rw [heq]
        exact ⟨⟨[], rest, rfl, Nat.zero_lt_of_lt hlarger, by simp, hall⟩, hlarger⟩
      · refine ⟨⟨key :: before, after, congrArg (key :: ·) heq, hpos, ?_, hafter⟩,
          hlarger.trans hlt⟩
        exact List.forall_mem_cons.mpr ⟨hlt, hbefore⟩

theorem IsWidest.mem {keys : List CacheKey} (h : IsWidest keys key) : key ∈ keys := by
  obtain ⟨before, after, rfl, -⟩ := h
  exact List.mem_append_right _ List.mem_cons_self

/-- The search among keys ends with the first of the widest. -/
theorem IsWidest.foldl_eq {keys : List CacheKey} (h : IsWidest keys key)
    (hkeys : ∀ other ∈ keys, other ≠ []) : keys.foldl pickWider [] = key := by
  have hstored : storedSize key = keySize key := if_neg (hkeys key h.mem)
  obtain ⟨before, after, rfl, hpos, hbefore, hafter⟩ := h
  have hleft : ∀ other ∈ before, other ≠ [] :=
    fun other hother => hkeys other (List.mem_append_left _ hother)
  have hright : ∀ other ∈ after, other ≠ [] :=
    fun other hother => hkeys other (List.mem_append_right _ (List.mem_cons_of_mem _ hother))
  have hbest : storedSize (before.foldl pickWider []) < keySize key := by
    rcases foldl_pickWider before hleft [] with ⟨heq, -⟩ | ⟨hwidest, -⟩
    · rw [heq]
      exact hpos
    · rw [storedSize, if_neg (hleft _ hwidest.mem)]
      exact hbefore _ hwidest.mem
  have hpick : pickWider (before.foldl pickWider []) key = key := if_neg (Nat.not_le.mpr hbest)
  rw [List.foldl_append, List.foldl_cons, hpick]
  rcases foldl_pickWider after hright key with ⟨heq, -⟩ | ⟨hwidest, hlt⟩
  · exact heq
  · rw [hstored] at hlt
    exact absurd (hafter _ hwidest.mem) (Nat.not_le.mpr hlt)

namespace LFGQueue

variable {q : LFGQueue}

/-- The cached keys that are left without a guid and mention an entry as one that lacks
players, in the order of the map. -/
def candidates (q : LFGQueue) (removed guid : Guid) : List CacheKey :=
  (q.compatibleMapStore.entries.filter fun entry =>
    !mentions entry.1 removed && (entry.2.compatibility = .withLessPlayers &&
      mentions entry.1 guid)).map Prod.fst

theorem mem_candidates {removed : Guid} (h : key ∈ q.candidates removed guid) :
    (q.removeFromCompatibles removed).compatibleMapStore.contains key = true ∧
      mentions key removed = false ∧ mentions key guid = true := by
  obtain ⟨entry, hentry, rfl⟩ := List.mem_map.mp h
  obtain ⟨hmem, hkeep⟩ := List.mem_filter.mp hentry
  rw [Bool.and_eq_true, Bool.and_eq_true, Bool.not_eq_true'] at hkeep
  refine ⟨?_, hkeep.1, hkeep.2.2⟩
  refine OrderedMap.contains_of_find? (v := entry.2) (OrderedMap.find?_eq_some_iff.mpr ?_)
  exact List.mem_filter.mpr ⟨hmem, (congrArg Bool.not hkeep.1).trans rfl⟩

theorem findBestCompatible_eq (q : LFGQueue) (view : LfgView) (removed guid : Guid)
    (data : LfgQueueData) :
    ((q.removeFromCompatibles removed).findBestCompatible view guid data).bestCompatible =
      (q.candidates removed guid).foldl pickWider data.bestCompatible := by
  rw [findBestCompatible, removeFromCompatibles, candidates, OrderedMap.filter]
  dsimp only
  generalize q.compatibleMapStore.entries = entries
  induction entries generalizing data with
  | nil => rfl
  | cons entry rest ih =>
    by_cases hremoved : mentions entry.1 removed = true
    · rw [List.filter_cons_of_neg (by simp [hremoved]),
        List.filter_cons_of_neg (by simp [hremoved])]
      exact ih data
    · rw [List.filter_cons_of_pos (by simp [hremoved]), List.foldl_cons]
      by_cases hfound : entry.2.compatibility = .withLessPlayers ∧ mentions entry.1 guid
      · rw [List.filter_cons_of_pos (by simp [hremoved, hfound]), if_pos hfound, ih,
          List.map_cons, List.foldl_cons, LfgQueueData.bestCompatible_update]
      · rw [if_neg hfound, List.filter_cons_of_neg]
        · exact ih data
        · rw [Bool.and_eq_true, Bool.and_eq_true, decide_eq_true_eq]
          exact fun h => hfound h.2

/-- The new best combination is the widest candidate, when there is one. -/
theorem best_iff (q : LFGQueue) (view : LfgView) (removed guid : Guid) (data : LfgQueueData)
    (hkey : key ≠ []) :
    ((q.removeFromCompatibles removed).findBestCompatible view guid
        { data with bestCompatible := [] }).bestCompatible = key ↔
      IsWidest (q.candidates removed guid) key := by
  have hne : ∀ other ∈ q.candidates removed guid, other ≠ [] :=
    fun other hother => ne_nil_of_mentions (mem_candidates hother).2.2
  rw [findBestCompatible_eq]
  constructor
  · rintro rfl
    rcases foldl_pickWider (q.candidates removed guid) hne [] with ⟨heq, -⟩ | ⟨hwidest, -⟩
    · exact absurd heq hkey
    · exact hwidest
  · intro hwidest
    exact hwidest.foldl_eq hne

/-! ## Removal from the queue -/

/-- Exactly the cached combinations without the guid are kept, and every best combination
is a cached one that lists its own entry and not the guid. -/
structure RemovedExactly (before after : LFGQueue) (guid : Guid) : Prop where
  cache : ∀ key, after.compatibleMapStore.find? key =
    if lists key guid then none else before.compatibleMapStore.find? key
  best : ∀ other data, after.queueDataStore.find? other = some data →
    data.bestCompatible ≠ [] →
      after.compatibleMapStore.contains data.bestCompatible = true ∧
        lists data.bestCompatible other = true ∧ ¬ lists data.bestCompatible guid = true

/-- The texts of the queue mention guids only where they list them: the guid in the cached
keys, and the other entries in the best combinations that they have or get. -/
structure ListsExactly (q : LFGQueue) (guid : Guid) : Prop where
  cached : ∀ key, q.compatibleMapStore.contains key = true → mentions key guid = true →
    lists key guid = true
  renewed : ∀ other data, q.queueDataStore.find? other = some data → other ≠ guid →
    mentions data.bestCompatible guid = true →
      ∀ key, IsWidest (q.candidates guid other) key → lists key other = true
  kept : ∀ other data, q.queueDataStore.find? other = some data → other ≠ guid →
    mentions data.bestCompatible guid = false → data.bestCompatible ≠ [] →
      q.compatibleMapStore.contains data.bestCompatible = true ∧
        lists data.bestCompatible other = true

theorem find?_removeFromCompatibles (q : LFGQueue) (guid : Guid) (key : CacheKey) :
    (q.removeFromCompatibles guid).compatibleMapStore.find? key =
      if mentions key guid then none else q.compatibleMapStore.find? key := by
  rw [removeFromCompatibles]
  dsimp only
  rw [OrderedMap.find?_filter_keys]
  by_cases hmentions : mentions key guid = true
  · simp [hmentions]
  · simp [hmentions]

theorem compatibleMapStore_removeFromQueue (q : LFGQueue) (view : LfgView) (guid : Guid) :
    (q.removeFromQueue view guid).compatibleMapStore =
      (q.removeFromCompatibles guid).compatibleMapStore := rfl

/-- The data of a remaining entry. -/
theorem find?_removeFromQueue (q : LFGQueue) (view : LfgView) (guid other : Guid) :
    (q.removeFromQueue view guid).queueDataStore.find? other =
      if other = guid then none
      else (q.queueDataStore.find? other).map fun data =>
        if mentions data.bestCompatible guid then
          (q.removeFromCompatibles guid).findBestCompatible view other
            { data with bestCompatible := [] }
        else data := by
  rw [removeFromQueue]
  dsimp only
  rw [OrderedMap.find?_erase, OrderedMap.find?_mapValues]
  by_cases hother : other = guid
  · rw [if_pos hother, if_pos hother]
  · rw [if_neg hother, if_neg hother]
    refine congrArg (Option.map · _) ?_
    funext data
    by_cases hmentions : mentions data.bestCompatible guid = true
    · rw [if_pos ⟨hother, hmentions⟩, if_pos hmentions]
      rfl
    · rw [if_neg (fun h => hmentions h.2), if_neg hmentions]

theorem contains_removeFromCompatibles (h : mentions key guid = false) :
    (q.removeFromCompatibles guid).compatibleMapStore.contains key =
      q.compatibleMapStore.contains key := by
  rw [OrderedMap.contains, OrderedMap.contains, find?_removeFromCompatibles, h]
  rfl

theorem ListsExactly.removedExactly (h : q.ListsExactly guid) (view : LfgView) :
    RemovedExactly q (q.removeFromQueue view guid) guid := by
  constructor
  · intro key
    rw [compatibleMapStore_removeFromQueue, find?_removeFromCompatibles]
    by_cases hlists : lists key guid = true
    · rw [if_pos hlists, if_pos (mentions_of_lists hlists)]
    · rw [if_neg hlists]
      by_cases hmentions : mentions key guid = true
      · rw [if_pos hmentions]
        rcases hfind : q.compatibleMapStore.find? key with _ | data
        · rfl
        · exact absurd (h.cached key (OrderedMap.contains_of_find? hfind) hmentions) hlists
      · rw [if_neg hmentions]
  · intro other data hdata hbest
    rw [find?_removeFromQueue, Option.ite_none_left_eq_some, Option.map_eq_some_iff] at hdata
    obtain ⟨hother, old, hold, rfl⟩ := hdata
    rw [compatibleMapStore_removeFromQueue]
    by_cases hmentions : mentions old.bestCompatible guid = true
    · rw [if_pos hmentions] at hbest ⊢
      have hwidest := (best_iff q view guid other old hbest).mp rfl
      obtain ⟨hcontains, hremoved, -⟩ := mem_candidates hwidest.mem
      refine ⟨hcontains, h.renewed other old hold hother hmentions _ hwidest, ?_⟩
      intro hlists
      exact Bool.noConfusion (hremoved.symm.trans (mentions_of_lists hlists))
    · rw [if_neg hmentions] at hbest ⊢
      have hremoved : mentions old.bestCompatible guid = false := Bool.eq_false_iff.mpr hmentions
      obtain ⟨hcontains, hlists⟩ := h.kept other old hold hother hremoved hbest
      exact ⟨(contains_removeFromCompatibles hremoved).trans hcontains, hlists,
        fun hlists => hmentions (mentions_of_lists hlists)⟩

theorem RemovedExactly.listsExactly {view : LfgView}
    (h : RemovedExactly q (q.removeFromQueue view guid) guid) : q.ListsExactly guid := by
  constructor
  · intro key hcontains hmentions
    by_contra hlists
    have hkept := h.cache key
    rw [compatibleMapStore_removeFromQueue, find?_removeFromCompatibles, if_pos hmentions,
      if_neg hlists] at hkept
    rw [OrderedMap.contains, ← hkept] at hcontains
    cases hcontains
  · intro other data hdata hother hmentions key hwidest
    have hne : key ≠ [] := ne_nil_of_mentions (mem_candidates hwidest.mem).2.2
    have hbest := (best_iff q view guid other data hne).mpr hwidest
    have hfind := find?_removeFromQueue q view guid other
    rw [if_neg hother, hdata, Option.map_some, if_pos hmentions] at hfind
    have hlists := (h.best other _ hfind (hbest ▸ hne)).2.1
    rw [hbest] at hlists
    exact hlists
  · intro other data hdata hother hmentions hne
    have hfind := find?_removeFromQueue q view guid other
    rw [if_neg hother, hdata, Option.map_some, hmentions] at hfind
    obtain ⟨hcontains, hlists, -⟩ := h.best other _ hfind hne
    rw [compatibleMapStore_removeFromQueue] at hcontains
    exact ⟨(contains_removeFromCompatibles hmentions).symm.trans hcontains, hlists⟩

/-- `RemoveFromQueue` keeps the cache exact if and only if the texts that it searches
mention a guid only where they list it. -/
theorem removedExactly_iff (q : LFGQueue) (view : LfgView) (guid : Guid) :
    RemovedExactly q (q.removeFromQueue view guid) guid ↔ q.ListsExactly guid := by
  constructor
  · exact RemovedExactly.listsExactly
  · intro h
    exact h.removedExactly view

/-- Everybody is queued, and every dungeon is for five players. -/
def allQueuedView : LfgView where
  now := 0
  getLFGDungeon _ := some ⟨.dungeon, 0, 1, 1, 3⟩
  isGroupGuid _ := false
  isLfgGroup _ := false
  hasIgnore _ _ := false
  getState _ := .queued
  getOldState _ := .none

/-- A damage dealer joins the queue for the first dungeon. -/
def joinDamage (q : LFGQueue) (guid : Guid) : LFGQueue :=
  q.addQueueData allQueuedView guid 0 (OrderedMap.ofKeys [1])
    (OrderedMap.empty.insert guid playerRoleDamage)

/-- The players 12 and 13 were found compatible, and player 1 joins after them. -/
def twelveThirteen : LFGQueue :=
  let s : Matching := ⟨(empty.joinDamage 12).joinDamage 13, .empty, 0, 0⟩
  (s.findGroups allQueuedView fun _ => 0).2.queue.joinDamage 1

/-- When player 1 leaves again, the combination of 12 and 13 is dropped with him. -/
theorem substring_removed :
    ¬ ∀ (q : LFGQueue) (view : LfgView) (guid : Guid),
      RemovedExactly q (q.removeFromQueue view guid) guid := by
  intro h
  have hexact := (h twelveThirteen allQueuedView 1).listsExactly
  have hcontains : twelveThirteen.compatibleMapStore.contains "12|13".toList = true := by
    decide +kernel
  exact absurd (hexact.cached "12|13".toList hcontains (by decide)) (by decide)

end LFGQueue

end Cataclysm.Lfg
