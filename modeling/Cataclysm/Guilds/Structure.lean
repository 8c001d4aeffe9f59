import Cataclysm.Guilds.Guild
import Cataclysm.Lib.Runs

/-!
# The structure of a guild

A guild is in order when its leader is a member of rank `0`, nobody else has rank `0`, every
member has an existing rank and the rank at index `i` has id `i`. Most requests keep a guild
in order. Some do not look at what they are given: the leader may name himself as his
successor, the rank of a member is taken from the packet as it is, the lowest rank is removed
with its members left behind, and the first two ranks are exchanged with their members.
`Request.Sound` excludes exactly these; a guild stays in order along a run of sound requests.

## Implementation notes

`Guild.Fits` says where a member with a given key may stand: the leader at rank `0` and
everybody else at a lower existing rank. The invariant says it of every member, which is
what the single requests have to re-establish.
-/

namespace Cataclysm.Guilds

namespace Guild

variable {ranks : List RankInfo} {g : Guild} {rankId key player : Nat} {m : Member}

/-- The rank at index `i` has id `i`. -/
def Numbered (ranks : List RankInfo) : Prop :=
  ∀ i (rankInfo : RankInfo), ranks[i]? = some rankInfo → rankInfo.id = i

/-- The guild is in order. -/
structure Structured (g : Guild) : Prop where
  leader : ∃ m, g.getMember g.leaderGuid = some m ∧ m.rankId = grGuildmaster
  unique : ∀ m ∈ g.roster.members, m.rankId = grGuildmaster → m.guid = g.leaderGuid
  ranked : ∀ m ∈ g.roster.members, m.rankId < g.ranks.length
  ids : Numbered g.ranks

theorem numbered_iff :
    Numbered ranks ↔ ranks.map RankInfo.id = List.range ranks.length := by
  constructor
  · intro h
    apply List.ext_getElem
    · rw [List.length_map, List.length_range]
    · intro i hi _
      rw [List.getElem_map, List.getElem_range]
      exact h i _ (List.getElem?_eq_getElem (by simpa using hi))
  · intro h i rankInfo hget
    have hmap : (ranks.map RankInfo.id)[i]? = some rankInfo.id := by
      rw [List.getElem?_map, hget]
      rfl
    rw [h] at hmap
    obtain ⟨hlt, heq⟩ := List.getElem?_eq_some_iff.mp hmap
    rw [List.getElem_range] at heq
    exact heq.symm

theorem structured_iff :
    g.Structured ↔ (g.getMember g.leaderGuid).any (fun m => m.isRank grGuildmaster) = true ∧
      (∀ m ∈ g.roster.members, m.rankId = grGuildmaster → m.guid = g.leaderGuid) ∧
      (∀ m ∈ g.roster.members, m.rankId < g.ranks.length) ∧
      g.ranks.map RankInfo.id = List.range g.ranks.length := by
  rw [← numbered_iff, Option.any_eq_true]
  simp only [Member.isRank, beq_iff_eq]
  constructor
  · intro h
    exact ⟨h.leader, h.unique, h.ranked, h.ids⟩
  · rintro ⟨hleader, hunique, hranked, hids⟩
    exact ⟨hleader, hunique, hranked, hids⟩

instance (g : Guild) : Decidable g.Structured := decidable_of_iff _ structured_iff.symm

/-- A member with this key may have this rank. -/
def Fits (g : Guild) (key rankId : Nat) : Prop :=
  if key = lowPart g.leaderGuid then rankId = grGuildmaster
  else grGuildmaster < rankId ∧ rankId < g.ranks.length

instance (g : Guild) (key rankId : Nat) : Decidable (g.Fits key rankId) :=
  inferInstanceAs (Decidable (if key = lowPart g.leaderGuid then rankId = grGuildmaster
    else grGuildmaster < rankId ∧ rankId < g.ranks.length))

theorem fits_leader :
    g.Fits (lowPart g.leaderGuid) rankId ↔ rankId = grGuildmaster := by
  simp [Fits]

theorem fits_of_ne (h : key ≠ lowPart g.leaderGuid) :
    g.Fits key rankId ↔ grGuildmaster < rankId ∧ rankId < g.ranks.length := by
  simp [Fits, h]

/-- What sound requests preserve. -/
structure Invariant (g : Guild) : Prop where
  leader : ∃ m ∈ g.roster.members, m.lowGuid = lowPart g.leaderGuid
  fits : ∀ m ∈ g.roster.members, g.Fits m.lowGuid m.rankId
  ids : Numbered g.ranks
  min_ranks : guildRanksMinCount ≤ g.ranks.length
  max_ranks : g.ranks.length ≤ guildRanksMaxCount
  guid_lt : ∀ m ∈ g.roster.members, m.guid < 2 ^ 32
  leaderGuid_lt : g.leaderGuid < 2 ^ 32

theorem Fits.lt_length (h : g.Fits key rankId) (hpos : 0 < g.ranks.length) :
    rankId < g.ranks.length := by
  rw [Fits] at h
  split at h
  · rw [h]
    exact hpos
  · exact h.2

theorem Invariant.ranks_pos (h : g.Invariant) : 0 < g.ranks.length :=
  lt_of_lt_of_le Nat.zero_lt_two h.min_ranks

theorem Invariant.ranked (h : g.Invariant) (hm : m ∈ g.roster.members) :
    m.rankId < g.ranks.length :=
  (h.fits m hm).lt_length h.ranks_pos

/-- The leader is the one member of rank `0`. -/
theorem Invariant.rank_eq_zero_iff (h : g.Invariant) (hm : m ∈ g.roster.members) :
    m.rankId = grGuildmaster ↔ m.lowGuid = lowPart g.leaderGuid := by
  have hfit := h.fits m hm
  constructor
  · intro hrank
    by_contra hne
    rw [fits_of_ne hne, hrank] at hfit
    exact lt_irrefl _ hfit.1
  · intro hkey
    rw [hkey, fits_leader] at hfit
    exact hfit

theorem Invariant.structured (h : g.Invariant) : g.Structured where
  leader := by
    obtain ⟨m, hm, hkey⟩ := h.leader
    exact ⟨m, Roster.find?_eq_some_iff.mpr ⟨hm, hkey⟩, (h.rank_eq_zero_iff hm).mpr hkey⟩
  unique := by
    intro m hm hrank
    have hkey := (h.rank_eq_zero_iff hm).mp hrank
    rw [Member.lowGuid, lowPart_of_lt (h.guid_lt m hm), lowPart_of_lt h.leaderGuid_lt] at hkey
    exact hkey
  ranked := fun m hm => h.ranked hm
  ids := h.ids

theorem Invariant.getRanksSize_eq (h : g.Invariant) : g.getRanksSize = g.ranks.length := by
  have hmax : g.ranks.length ≤ 10 := h.max_ranks
  exact Nat.mod_eq_of_lt (by omega)

theorem Invariant.getLowestRankId_eq (h : g.Invariant) :
    g.getLowestRankId = g.ranks.length - 1 := by
  have hmax : g.ranks.length ≤ 10 := h.max_ranks
  have hpos := h.ranks_pos
  rw [getLowestRankId, uint8]
  omega

theorem Invariant.isLeader_iff (h : g.Invariant) :
    g.isLeader player = true ↔ lowPart player = lowPart g.leaderGuid := by
  obtain ⟨m, hm, hkey⟩ := h.leader
  constructor
  · intro hlead
    simp only [isLeader, Bool.or_eq_true, beq_iff_eq] at hlead
    obtain rfl | hrank := hlead
    · rfl
    · split at hrank
      · next member hfind =>
          obtain ⟨hmem, hplayer⟩ := Roster.find?_eq_some_iff.mp hfind
          rw [← hplayer]
          exact (h.rank_eq_zero_iff hmem).mp (by simpa [Member.isRank] using hrank)
      · cases hrank
  · intro hplayer
    have hfind : g.getMember player = some m :=
      Roster.find?_eq_some_iff.mpr ⟨hm, hkey.trans hplayer.symm⟩
    simp [isLeader, hfind, Member.isRank, (h.rank_eq_zero_iff hm).mpr hkey]

/-! ### Changes of rank -/

variable {newLeader : Member}

theorem mem_changeRank {newRank : Nat} (hm : m ∈ (g.changeRank key newRank).roster.members) :
    ∃ m' ∈ g.roster.members, m.guid = m'.guid ∧ m.lowGuid = m'.lowGuid ∧
      m.rankId = if m'.lowGuid = key then uint8 newRank else m'.rankId := by
  obtain ⟨m', hm', rfl⟩ := Roster.mem_rerank.mp hm
  exact ⟨m', hm', rfl, rfl, rfl⟩

theorem exists_mem_changeRank {newRank : Nat} (hm : m ∈ g.roster.members) :
    ∃ m' ∈ (g.changeRank key newRank).roster.members, m'.lowGuid = m.lowGuid :=
  ⟨_, Roster.mem_rerank.mpr ⟨m, hm, rfl⟩, rfl⟩

/-- Every member gets a rank that he may have. -/
theorem Invariant.rerank (h : g.Invariant) {rank : Member → Nat}
    (hfit : ∀ m ∈ g.roster.members, g.Fits m.lowGuid (rank m)) :
    { g with roster := g.roster.rerank rank }.Invariant where
  leader := by
    obtain ⟨m, hm, hkey⟩ := h.leader
    exact ⟨_, Roster.mem_rerank.mpr ⟨m, hm, rfl⟩, hkey⟩
  fits := by
    intro m hm
    obtain ⟨m', hm', rfl⟩ := Roster.mem_rerank.mp hm
    exact hfit m' hm'
  ids := h.ids
  min_ranks := h.min_ranks
  max_ranks := h.max_ranks
  guid_lt := by
    intro m hm
    obtain ⟨m', hm', rfl⟩ := Roster.mem_rerank.mp hm
    exact h.guid_lt m' hm'
  leaderGuid_lt := h.leaderGuid_lt

theorem Invariant.changeRank (h : g.Invariant) {newRank : Nat} (hfit : g.Fits key (uint8 newRank)) :
    (g.changeRank key newRank).Invariant := by
  apply h.rerank
  intro m hm
  split
  · next heq =>
      rw [heq]
      exact hfit
  · exact h.fits m hm

theorem exists_mem_setLeaderGUID (hm : m ∈ g.roster.members) :
    ∃ m' ∈ (g.setLeaderGUID newLeader).roster.members, m'.lowGuid = m.lowGuid :=
  ⟨_, Roster.mem_rerank.mpr ⟨m, hm, rfl⟩, rfl⟩

theorem uint8_of_lt {n : Nat} (h : n < 2 ^ 8) : uint8 n = n := Nat.mod_eq_of_lt h

/-- With a new leader everybody but the old one is where he may be. -/
theorem Invariant.fits_setLeaderGUID (h : g.Invariant)
    (hm : m ∈ (g.setLeaderGUID newLeader).roster.members)
    (hold : m.lowGuid ≠ lowPart g.leaderGuid) :
    (g.setLeaderGUID newLeader).Fits m.lowGuid m.rankId := by
  obtain ⟨m', hm', -, hkey, hrank⟩ := mem_changeRank hm
  by_cases hnew : m'.lowGuid = newLeader.lowGuid
  · rw [if_pos hnew] at hrank
    rw [hkey, hnew, hrank]
    exact fits_leader.mpr rfl
  · rw [if_neg hnew] at hrank
    have hne : m.lowGuid ≠ lowPart (g.setLeaderGUID newLeader).leaderGuid := by
      rw [hkey]
      exact hnew
    have hfit := h.fits m' hm'
    rw [fits_of_ne (hkey ▸ hold)] at hfit
    rw [fits_of_ne hne, hrank]
    exact hfit

/-- The old leader steps back to a lower rank that exists. -/
theorem Invariant.replaceLeader (h : g.Invariant) (hmem : newLeader ∈ g.roster.members)
    (hne : newLeader.lowGuid ≠ lowPart g.leaderGuid) (hpos : grGuildmaster < rankId)
    (hlt : rankId < g.ranks.length) :
    ((g.setLeaderGUID newLeader).changeRank (lowPart g.leaderGuid) rankId).Invariant where
  leader := by
    obtain ⟨m, hm, hkey⟩ := exists_mem_setLeaderGUID hmem
    obtain ⟨m', hm', hkey'⟩ := exists_mem_changeRank hm
    exact ⟨m', hm', hkey'.trans hkey⟩
  fits := by
    intro m hm
    obtain ⟨m', hm', -, hkey, hrank⟩ := mem_changeRank hm
    have hsmall : uint8 rankId = rankId := by
      have hmax : g.ranks.length ≤ 10 := h.max_ranks
      exact uint8_of_lt (by omega)
    by_cases hold : m'.lowGuid = lowPart g.leaderGuid
    · rw [if_pos hold, hsmall] at hrank
      rw [hkey, hold, hrank]
      exact (fits_of_ne (g := g.setLeaderGUID newLeader) hne.symm).mpr ⟨hpos, hlt⟩
    · rw [if_neg hold] at hrank
      rw [hkey, hrank]
      exact h.fits_setLeaderGUID hm' hold
  ids := h.ids
  min_ranks := h.min_ranks
  max_ranks := h.max_ranks
  guid_lt := by
    intro m hm
    obtain ⟨m', hm', hguid, -, -⟩ := mem_changeRank hm
    obtain ⟨m'', hm'', hguid', -, -⟩ := mem_changeRank hm'
    rw [hguid, hguid']
    exact h.guid_lt m'' hm''
  leaderGuid_lt := h.guid_lt newLeader hmem

/-! ### Members come and go -/

theorem mem_of_betterLeader {lowguid : Nat} {newLeader : Option Member} {a : Member}
    (h : betterLeader lowguid newLeader a = some m) :
    newLeader = some m ∨ m = a ∧ a.lowGuid ≠ lowguid := by
  unfold betterLeader at h
  split at h
  · exact Or.inl h
  · next hne =>
      split at h
      · cases h
        exact Or.inr ⟨rfl, hne⟩
      · split at h
        · cases h
          exact Or.inr ⟨rfl, hne⟩
        · exact Or.inl h

theorem findNewLeader_mem {lowguid : Nat} {members : List Member}
    (h : findNewLeader lowguid members = some m) : m ∈ members ∧ m.lowGuid ≠ lowguid := by
  have hfold : ∀ (rest : List Member) (best : Option Member),
      rest.foldl (betterLeader lowguid) best = some m →
      best = some m ∨ m ∈ rest ∧ m.lowGuid ≠ lowguid := by
    intro rest
    induction rest with
    | nil => exact fun best hfin => Or.inl hfin
    | cons a rest ih =>
      intro best hfin
      obtain hbest | ⟨hmem, hne⟩ := ih _ hfin
      · obtain hbest | ⟨rfl, hne⟩ := mem_of_betterLeader hbest
        · exact Or.inl hbest
        · exact Or.inr ⟨List.mem_cons_self, hne⟩
      · exact Or.inr ⟨List.mem_cons_of_mem a hmem, hne⟩
  obtain hnone | hfound := hfold members none h
  · cases hnone
  · exact hfound

/-- Erasing a member who is not the leader. -/
theorem Invariant.eraseMember (h : g.Invariant) (hne : key ≠ lowPart g.leaderGuid) :
    { g with roster := g.roster.erase key }.Invariant where
  leader := by
    obtain ⟨m, hm, hkey⟩ := h.leader
    exact ⟨m, Roster.mem_erase.mpr ⟨hm, hkey ▸ hne.symm⟩, hkey⟩
  fits := fun m hm => h.fits m (Roster.mem_erase.mp hm).1
  ids := h.ids
  min_ranks := h.min_ranks
  max_ranks := h.max_ranks
  guid_lt := fun m hm => h.guid_lt m (Roster.mem_erase.mp hm).1
  leaderGuid_lt := h.leaderGuid_lt

/-- The leader leaves and another member takes his place. -/
theorem Invariant.eraseLeader (h : g.Invariant) (hmem : newLeader ∈ g.roster.members)
    (hne : newLeader.lowGuid ≠ lowPart g.leaderGuid) :
    { g.setLeaderGUID newLeader with
      roster := (g.setLeaderGUID newLeader).roster.erase (lowPart g.leaderGuid) }.Invariant where
  leader := by
    obtain ⟨m, hm, hkey⟩ := exists_mem_setLeaderGUID hmem
    exact ⟨m, Roster.mem_erase.mpr ⟨hm, hkey ▸ hne⟩, hkey⟩
  fits := by
    intro m hm
    obtain ⟨hm, hold⟩ := Roster.mem_erase.mp hm
    exact h.fits_setLeaderGUID hm hold
  ids := h.ids
  min_ranks := h.min_ranks
  max_ranks := h.max_ranks
  guid_lt := by
    intro m hm
    obtain ⟨m', hm', hguid, -, -⟩ := mem_changeRank (Roster.mem_erase.mp hm).1
    rw [hguid]
    exact h.guid_lt m' hm'
  leaderGuid_lt := h.guid_lt newLeader hmem

/-- `DeleteMember` keeps a guild in order when a guid with the key of the leader is his guid. -/
theorem Invariant.deleteMember {g' : Guild} (h : g.Invariant) {guid : Nat}
    (hguid : lowPart guid = lowPart g.leaderGuid → guid = g.leaderGuid)
    (hdel : g.deleteMember guid = some g') : g'.Invariant := by
  rw [Guild.deleteMember] at hdel
  split at hdel
  · next hlead =>
      subst hlead
      split at hdel
      · cases hdel
      · next newLeader hfound =>
          obtain ⟨hmem, hne⟩ := findNewLeader_mem hfound
          cases hdel
          exact h.eraseLeader hmem hne
  · next hne =>
      cases hdel
      exact h.eraseMember fun hkey => hne (hguid hkey).symm

/-- A new or replaced member has a rank that he may have. -/
theorem Invariant.insertMember (h : g.Invariant) (hguid : m.guid < 2 ^ 32)
    (hfit : g.Fits m.lowGuid m.rankId) :
    { g with roster := g.roster.insert m }.Invariant where
  leader := by
    obtain ⟨m', hm', hkey⟩ := h.leader
    by_cases heq : m'.lowGuid = m.lowGuid
    · exact ⟨m, Roster.mem_insert.mpr (Or.inl rfl), heq.symm.trans hkey⟩
    · exact ⟨m', Roster.mem_insert.mpr (Or.inr ⟨hm', heq⟩), hkey⟩
  fits := by
    intro m' hm'
    obtain rfl | ⟨hm', -⟩ := Roster.mem_insert.mp hm'
    · exact hfit
    · exact h.fits m' hm'
  ids := h.ids
  min_ranks := h.min_ranks
  max_ranks := h.max_ranks
  guid_lt := by
    intro m' hm'
    obtain rfl | ⟨hm', -⟩ := Roster.mem_insert.mp hm'
    · exact hguid
    · exact h.guid_lt m' hm'
  leaderGuid_lt := h.leaderGuid_lt

theorem Invariant.reorder (h : g.Invariant) (order : List Member) :
    { g with roster := g.roster.reorder order }.Invariant where
  leader := by
    obtain ⟨m, hm, hkey⟩ := h.leader
    exact ⟨m, Roster.mem_reorder.mpr hm, hkey⟩
  fits := fun m hm => h.fits m (Roster.mem_reorder.mp hm)
  ids := h.ids
  min_ranks := h.min_ranks
  max_ranks := h.max_ranks
  guid_lt := fun m hm => h.guid_lt m (Roster.mem_reorder.mp hm)
  leaderGuid_lt := h.leaderGuid_lt

/-! ### The rank vector -/

/-- Another rank vector in which every member still has a rank. -/
theorem Invariant.withRanks (h : g.Invariant)
    (hranked : ∀ m ∈ g.roster.members, m.rankId < ranks.length) (hids : Numbered ranks)
    (hmin : guildRanksMinCount ≤ ranks.length) (hmax : ranks.length ≤ guildRanksMaxCount) :
    { g with ranks := ranks }.Invariant where
  leader := h.leader
  fits := by
    intro m hm
    by_cases hkey : m.lowGuid = lowPart g.leaderGuid
    · have hrank := (h.rank_eq_zero_iff hm).mpr hkey
      rw [hkey]
      exact fits_leader.mpr hrank
    · have hfit := (fits_of_ne hkey).mp (h.fits m hm)
      exact (fits_of_ne (g := { g with ranks := ranks }) hkey).mpr ⟨hfit.1, hranked m hm⟩
  ids := hids
  min_ranks := hmin
  max_ranks := hmax
  guid_lt := h.guid_lt
  leaderGuid_lt := h.leaderGuid_lt

theorem numbered_append {last : RankInfo} (hlast : last.id = ranks.length) (hids : Numbered ranks) :
    Numbered (ranks ++ [last]) := by
  intro i rankInfo hget
  rw [List.getElem?_append] at hget
  split at hget
  · exact hids i rankInfo hget
  · next hge =>
      obtain ⟨hlt, heq⟩ := List.getElem?_eq_some_iff.mp hget
      have hi : i - ranks.length = 0 := by simpa using hlt
      simp only [hi, List.getElem_cons_zero] at heq
      rw [← heq, hlast]
      omega

theorem numbered_set {rankInfo : RankInfo} (hid : rankInfo.id = rankId) (hids : Numbered ranks) :
    Numbered (ranks.set rankId rankInfo) := by
  intro i rankInfo' hget
  rw [List.getElem?_set] at hget
  split at hget
  · next heq =>
      split at hget
      · cases hget
        exact hid.trans heq
      · cases hget
  · exact hids i rankInfo' hget

theorem Invariant.createRank (h : g.Invariant) (name : String) (rights : Nat) :
    (g.createRank name rights).Invariant := by
  rw [Guild.createRank]
  split
  · exact h
  · next hroom =>
      rw [h.getRanksSize_eq] at hroom ⊢
      have hlen : (g.ranks ++ [RankInfo.mk g.ranks.length name rights 0]).length =
          g.ranks.length + 1 := List.length_append
      apply h.withRanks
      · intro m hm
        rw [hlen]
        exact Nat.lt_succ_of_lt (h.ranked hm)
      · exact numbered_append rfl h.ids
      · rw [hlen]
        exact Nat.le_succ_of_le h.min_ranks
      · rw [hlen]
        exact Nat.lt_of_not_le hroom

theorem length_moveRankDown (ranks : List RankInfo) (rankId : Nat) :
    (moveRankDown ranks rankId).length = ranks.length := by
  unfold moveRankDown
  split
  · exact List.length_set
  · rfl

theorem numbered_moveRankDown (rankId : Nat) (hids : Numbered ranks) :
    Numbered (moveRankDown ranks rankId) := by
  unfold moveRankDown
  split
  · exact numbered_set rfl hids
  · exact hids

/-- The whole loop of `HandleRemoveRank` keeps the size and the ids. -/
theorem foldl_moveRankDown (moved : List Nat) (hids : Numbered ranks) :
    (moved.foldl moveRankDown ranks).length = ranks.length ∧
      Numbered (moved.foldl moveRankDown ranks) := by
  induction moved generalizing ranks with
  | nil => exact ⟨rfl, hids⟩
  | cons rankId rest ih =>
    obtain ⟨hlen, hnext⟩ := ih (numbered_moveRankDown rankId hids)
    exact ⟨hlen.trans (length_moveRankDown ranks rankId), hnext⟩

/-- A rank can go when nobody has the lowest rank. -/
theorem Invariant.handleRemoveRank (h : g.Invariant)
    (hsound : g.removesRank player (uint8 rankId) = true →
      ∀ m ∈ g.roster.members, m.rankId ≠ g.ranks.length - 1) :
    (g.handleRemoveRank player rankId).Invariant := by
  rw [Guild.handleRemoveRank]
  dsimp only
  split
  · next hremoves =>
      have hempty := hsound hremoves
      rw [removesRank, h.getRanksSize_eq] at hremoves
      simp only [Bool.and_eq_true, decide_eq_true_eq] at hremoves
      have hmin : 2 < g.ranks.length := hremoves.1.1
      have hmax := h.max_ranks
      rw [h.getRanksSize_eq]
      obtain ⟨hlen, hids⟩ := foldl_moveRankDown ((List.range' (uint8 rankId)
        (g.ranks.length - 1 - uint8 rankId)).takeWhile fun i => i + 1 < guildRanksMaxCount) h.ids
      apply h.withRanks
      · intro m hm
        have hlt := h.ranked hm
        have hne := hempty m hm
        rw [List.length_take, hlen]
        omega
      · intro i rankInfo hget
        rw [List.getElem?_take] at hget
        split at hget
        · exact hids i rankInfo hget
        · cases hget
      · rw [List.length_take, hlen, guildRanksMinCount]
        omega
      · rw [List.length_take, hlen]
        exact (min_le_right _ _).trans h.max_ranks
  · exact h

theorem length_exchangeRanks (ranks : List RankInfo) (rankId newRankId : Nat) :
    (exchangeRanks ranks rankId newRankId).length = ranks.length := by
  unfold exchangeRanks
  split
  · rw [List.length_set, List.length_set]
  · rfl

theorem numbered_exchangeRanks (rankId newRankId : Nat) (hids : Numbered ranks) :
    Numbered (exchangeRanks ranks rankId newRankId) := by
  unfold exchangeRanks
  split
  · exact numbered_set rfl (numbered_set rfl hids)
  · exact hids

/-- Two existing ranks below the guild master can be exchanged. -/
theorem Invariant.switchRank (h : g.Invariant) {up : Bool}
    (hsound : ∀ old new, g.switchedRanks rankId up = some (old, new) →
      grGuildmaster < old ∧ grGuildmaster < new ∧ old < g.ranks.length ∧ new < g.ranks.length) :
    (g.switchRank rankId up).Invariant := by
  unfold Guild.switchRank
  split
  · exact h
  · next old new hswitch =>
      obtain ⟨hold, hnew, hold_lt, hnew_lt⟩ := hsound old new hswitch
      have hlen := length_exchangeRanks g.ranks old new
      have hranks : { g with ranks := exchangeRanks g.ranks old new }.Invariant := by
        apply h.withRanks
        · intro m hm
          rw [hlen]
          exact h.ranked hm
        · exact numbered_exchangeRanks old new h.ids
        · rw [hlen]
          exact h.min_ranks
        · rw [hlen]
          exact h.max_ranks
      apply hranks.rerank
      intro m hm
      by_cases hkey : m.lowGuid = lowPart g.leaderGuid
      · have hrank := (h.rank_eq_zero_iff hm).mpr hkey
        rw [hrank, if_neg hold.ne, if_neg hnew.ne, hkey]
        exact fits_leader.mpr rfl
      · have hfit := (fits_of_ne hkey).mp (h.fits m hm)
        refine (fits_of_ne (g := { g with ranks := exchangeRanks g.ranks old new }) hkey).mpr ?_
        rw [hlen]
        split_ifs
        · exact ⟨hnew, hnew_lt⟩
        · exact ⟨hold, hold_lt⟩
        · exact hfit

/-! ### The checks of a promotion -/

theorem getMember_mem {guid : Nat} (h : g.getMember guid = some m) :
    m ∈ g.roster.members ∧ m.lowGuid = lowPart guid :=
  Roster.find?_eq_some_iff.mp h

/-- A promotion or demotion that passes its checks ends at a rank the member may have. -/
theorem Invariant.fits_updatedRank (h : g.Invariant) {member memberMe : Member}
    (hm : member ∈ g.roster.members) (hme : memberMe ∈ g.roster.members) {demote : Bool}
    {newRankId : Nat} (hnew : g.updatedRank member memberMe demote = some newRankId) :
    g.Fits member.lowGuid (uint8 newRankId) := by
  have hmax : g.ranks.length ≤ 10 := h.max_ranks
  have hlt := h.ranked hm
  have hltMe := h.ranked hme
  have hbounds : 0 < member.rankId ∧ 0 < newRankId ∧ newRankId < g.ranks.length := by
    rw [updatedRank, h.getLowestRankId_eq, uint8_of_lt (n := memberMe.rankId + 1) (by omega)] at hnew
    simp only [Member.isRankNotLower, decide_eq_true_eq] at hnew
    split_ifs at hnew with _ hlower hlowest hlower
    · cases hnew
      omega
    · cases hnew
      omega
  have hne : member.lowGuid ≠ lowPart g.leaderGuid := by
    intro hkey
    exact hbounds.1.ne' ((h.rank_eq_zero_iff hm).mpr hkey)
  rw [fits_of_ne hne, uint8_of_lt (by omega)]
  exact hbounds.2

theorem Invariant.handleUpdateMemberRank (h : g.Invariant) (player guid : Nat) (demote : Bool) :
    (g.handleUpdateMemberRank player guid demote).Invariant := by
  unfold Guild.handleUpdateMemberRank
  generalize g.hasRankRight player _ = allowed
  split
  · split
    · next member memberMe hmember hme =>
        split
        · exact h
        · split
          · next newRankId hnew =>
              exact h.changeRank
                (h.fits_updatedRank (getMember_mem hmember).1 (getMember_mem hme).1 hnew)
          · exact h
    · exact h
  · exact h

theorem Invariant.handleAddNewRank (h : g.Invariant) (player : Nat) (name : String) :
    (g.handleAddNewRank player name).Invariant := by
  rw [Guild.handleAddNewRank]
  split_ifs
  · exact h
  · exact h.createRank name _
  · exact h

theorem Invariant.handleRemoveMember {g' : Guild} (h : g.Invariant) {guid : Nat}
    (hdel : g.handleRemoveMember player guid = some g') : g'.Invariant := by
  unfold Guild.handleRemoveMember at hdel
  split at hdel
  · split at hdel
    · next member memberMe hmember hme =>
        split at hdel
        · cases hdel
          exact h
        · next hrank =>
            split at hdel
            · cases hdel
              exact h
            · obtain ⟨hmem, hkey⟩ := getMember_mem hmember
              refine h.deleteMember ?_ hdel
              intro hlead
              have hzero := (h.rank_eq_zero_iff hmem).mpr (hkey.trans hlead)
              exact absurd (beq_iff_eq.mpr hzero) hrank
    · cases hdel
      exact h
  · cases hdel
    exact h

theorem Invariant.handleLeaveMember {g' : Guild} (h : g.Invariant) {undeletable : Bool}
    (hdel : g.handleLeaveMember player undeletable = some g') : g'.Invariant := by
  rw [Guild.handleLeaveMember] at hdel
  split_ifs at hdel with hlead
  · cases hdel
    exact h
  · cases hdel
    exact h
  · refine h.deleteMember ?_ hdel
    intro hkey
    exact absurd (h.isLeader_iff.mpr hkey) hlead

/-- The new leader has at least rank `GR_MEMBER`, so that rank exists for the old one. -/
theorem Invariant.replaceGuildLeader (h : g.Invariant) (newleader : Nat) (online : Bool)
    (logoutTime now : Nat) : (g.replaceGuildLeader newleader online logoutTime now).Invariant := by
  unfold Guild.replaceGuildLeader
  split
  · next oldLead newLead hold hnew =>
      obtain ⟨-, hkey⟩ := getMember_mem hold
      obtain ⟨hmem, -⟩ := getMember_mem hnew
      split_ifs with _ hlow
      · exact h
      · exact h
      · have hrank : 3 ≤ newLead.rankId := Nat.le_of_not_lt hlow
        have hne : newLead.lowGuid ≠ lowPart g.leaderGuid := by
          intro hlead
          have hzero : newLead.rankId = 0 := (h.rank_eq_zero_iff hmem).mpr hlead
          omega
        rw [hkey]
        exact h.replaceLeader hmem hne (Nat.succ_pos 2) (lt_of_le_of_lt hrank (h.ranked hmem))
  · exact h

end Guild

/-! ### Sound requests -/

/-- The requests that leave a guild in order. -/
def Request.sound (g : Guild) : Request → Bool
  | .setNewGuildMaster player name =>
    !g.isLeader player ||
      match g.getMemberByName name with
      | some newGuildMaster =>
        newGuildMaster.lowGuid != lowPart player && decide (grInitiate < g.ranks.length)
      | none => true
  | .setMemberRank player targetGuid rank =>
    match g.getMember targetGuid with
    | some member =>
      !g.hasRankRight player (if rank > member.rankId then grRightDemote else grRightPromote) ||
        member.isSamePlayer player || decide (g.Fits member.lowGuid (uint8 rank))
    | none => true
  | .removeRank player rankId =>
    !g.removesRank player (uint8 rankId) ||
      g.roster.members.all fun m => m.rankId != g.ranks.length - 1
  | .switchRank player rankId up =>
    player != g.leaderGuid ||
      match g.switchedRanks (uint8 rankId) up with
      | some (old, new) => grGuildmaster < old && grGuildmaster < new && old < g.ranks.length
      | none => true
  | .addMember c rankId =>
    c.guildId != 0 || !c.online && !c.passesCheckStats ||
      decide (g.Fits (playerGuid c.lowguid)
        (if rankId = guildRankNone then g.getLowestRankId else rankId))
  | .replaceGuildLeader newleader online logoutTime now =>
    online || Guild.recentlyOnline logoutTime now || (g.getMember newleader).isSome
  | _ => true

namespace Guild

variable {g : Guild}

theorem Invariant.handleSetNewGuildMaster (h : g.Invariant) {player : Nat} {name : String}
    (hsound : (Request.setNewGuildMaster player name).sound g = true) :
    (g.handleSetNewGuildMaster player name).Invariant := by
  unfold Guild.handleSetNewGuildMaster
  split
  · next hlead =>
      split
      · next oldGuildMaster newGuildMaster hold hnew =>
          simp only [Request.sound, hlead, hnew, Bool.not_true, Bool.false_or, Bool.and_eq_true,
            bne_iff_ne, decide_eq_true_eq] at hsound
          have hplayer := h.isLeader_iff.mp hlead
          rw [(getMember_mem hold).2, hplayer]
          exact h.replaceLeader (List.mem_of_find?_eq_some hnew) (hplayer ▸ hsound.1)
            (Nat.succ_pos 3) hsound.2
      · exact h
  · exact h

theorem Invariant.handleSetMemberRank (h : g.Invariant) {player targetGuid rank : Nat}
    (hsound : (Request.setMemberRank player targetGuid rank).sound g = true) :
    (g.handleSetMemberRank player targetGuid rank).Invariant := by
  unfold Guild.handleSetMemberRank
  split
  · exact h
  · next member hmember =>
      simp only [Request.sound, hmember] at hsound
      dsimp only
      generalize g.hasRankRight player _ = allowed at hsound ⊢
      split_ifs with hright hsame
      · exact h
      · exact h
      · simp only [Bool.or_eq_true, Bool.not_eq_true', decide_eq_true_eq] at hsound
        obtain (hno | hself) | hfit := hsound
        · exact absurd hno hright
        · exact absurd hself hsame
        · exact h.changeRank hfit

theorem Invariant.handleSwitchRank (h : g.Invariant) {player rankId : Nat} {up : Bool}
    (hsound : (Request.switchRank player rankId up).sound g = true) :
    (g.handleSwitchRank player rankId up).Invariant := by
  rw [Guild.handleSwitchRank]
  split
  · next hlead =>
      apply h.switchRank
      intro old new hswitch
      simp only [Request.sound, hlead, hswitch, bne_self_eq_false, Bool.false_or,
        Bool.and_eq_true, decide_eq_true_eq] at hsound
      obtain ⟨⟨hold, hnew⟩, hlt⟩ := hsound
      refine ⟨hold, hnew, hlt, ?_⟩
      rw [switchedRanks, h.getLowestRankId_eq] at hswitch
      split_ifs at hswitch with _ hstop
      · cases hswitch
        omega
      · cases hswitch
        have hlowest := (not_or.mp hstop).2
        omega
  · exact h

theorem Invariant.addMember (h : g.Invariant) {c : Character} {rankId : Nat}
    (hsound : (Request.addMember c rankId).sound g = true) :
    (g.addMember c rankId).1.Invariant := by
  simp only [Request.sound, Bool.or_eq_true, bne_iff_ne, Bool.and_eq_true, Bool.not_eq_true',
    decide_eq_true_eq] at hsound
  rw [Guild.addMember]
  by_cases hguild : c.guildId ≠ 0
  · rw [if_pos hguild]
    exact h
  rw [if_neg hguild]
  by_cases hstats : c.online = false ∧ c.passesCheckStats = false
  · rw [if_pos hstats]
    exact h
  rw [if_neg hstats]
  have hfit := hsound.resolve_left (not_or.mpr ⟨hguild, hstats⟩)
  apply h.insertMember (playerGuid_lt c.lowguid)
  rw [Member.lowGuid, lowPart_playerGuid]
  exact hfit

/-- One sound request keeps a guild in order. -/
theorem Invariant.handle {g' : Guild} (h : g.Invariant) {request : Request}
    (hsound : request.sound g = true) (hstep : g.handle request = some g') : g'.Invariant := by
  cases request with
  | setNewGuildMaster player name =>
    cases hstep
    exact h.handleSetNewGuildMaster hsound
  | updateMemberRank player guid demote =>
    cases hstep
    exact h.handleUpdateMemberRank player guid demote
  | setMemberRank player targetGuid rank =>
    cases hstep
    exact h.handleSetMemberRank hsound
  | addNewRank player name =>
    cases hstep
    exact h.handleAddNewRank player name
  | removeRank player rankId =>
    cases hstep
    apply h.handleRemoveRank
    intro hremoves
    simp only [Request.sound, hremoves, Bool.not_true, Bool.false_or, List.all_eq_true,
      bne_iff_ne] at hsound
    exact hsound
  | switchRank player rankId up =>
    cases hstep
    exact h.handleSwitchRank hsound
  | addMember c rankId =>
    cases hstep
    exact h.addMember hsound
  | deleteMember lowguid =>
    refine h.deleteMember ?_ hstep
    rw [lowPart_playerGuid, lowPart_of_lt h.leaderGuid_lt]
    exact id
  | removeMember player guid => exact h.handleRemoveMember hstep
  | leaveMember player undeletable => exact h.handleLeaveMember hstep
  | replaceGuildLeader newleader online logoutTime now =>
    cases hstep
    exact h.replaceGuildLeader newleader online logoutTime now
  | rehash order =>
    cases hstep
    exact h.reorder order

/-! ### Validated guilds -/

/-- What the keys of the database promise: guids of players and at most one rank for each
value of an unsigned byte. -/
structure Loaded (g : Guild) : Prop where
  guid_lt : ∀ m ∈ g.roster.members, m.guid < 2 ^ 32
  leaderGuid_lt : g.leaderGuid < 2 ^ 32
  ranks_le : g.ranks.length ≤ 2 ^ 8

/-- The number of ranks once the stored rows are loaded: rows that are no sequence of 2 to 10 ids
from `0` give way to the five default ranks. -/
def loadedRanks (g : Guild) : Nat :=
  if g.ranks.map RankInfo.id = List.range g.ranks.length ∧
      guildRanksMinCount ≤ g.ranks.length ∧ g.ranks.length ≤ guildRanksMaxCount then
    g.ranks.length
  else 5

/-- Only the leader may be stored with the first rank id that does not exist. -/
def RanksStored (g : Guild) : Prop :=
  ∀ m ∈ g.roster.members, m.guid ≠ g.leaderGuid → m.rankId ≠ g.loadedRanks

instance (g : Guild) : Decidable g.RanksStored :=
  inferInstanceAs (Decidable (∀ m ∈ g.roster.members, m.guid ≠ g.leaderGuid →
    m.rankId ≠ g.loadedRanks))

theorem repairRanks_leaderGuid (g : Guild) (trinityString : Nat → String) :
    (g.repairRanks trinityString).leaderGuid = g.leaderGuid := by
  rw [repairRanks]
  split <;> rfl

theorem repairRanks_roster (g : Guild) (trinityString : Nat → String) :
    (g.repairRanks trinityString).roster = g.roster := by
  rw [repairRanks]
  split <;> rfl

theorem numbered_of_ranksIntact (hload : g.ranks.length ≤ 2 ^ 8) (h : g.ranksIntact = true) :
    Numbered g.ranks ∧ guildRanksMinCount ≤ g.ranks.length ∧
      g.ranks.length ≤ guildRanksMaxCount := by
  simp only [ranksIntact, Bool.and_eq_true, decide_eq_true_eq, List.all_eq_true,
    List.mem_range] at h
  obtain ⟨⟨hmin, hmax⟩, hids⟩ := h
  have hsize : g.getRanksSize = g.ranks.length := by
    rw [getRanksSize, uint8, guildRanksMinCount] at hmin
    rw [getRanksSize, uint8]
    omega
  rw [hsize] at hmin hmax hids
  refine ⟨?_, hmin, hmax⟩
  intro i rankInfo hget
  have hlt := (List.getElem?_eq_some_iff.mp hget).1
  have hid := hids i hlt
  rw [getRankInfo, hsize, if_pos hlt, hget] at hid
  exact beq_iff_eq.mp hid

theorem ranksIntact_of_numbered (hids : Numbered g.ranks)
    (hmin : guildRanksMinCount ≤ g.ranks.length) (hmax : g.ranks.length ≤ guildRanksMaxCount) :
    g.ranksIntact = true := by
  have hten : g.ranks.length ≤ 10 := hmax
  have hsize : g.getRanksSize = g.ranks.length := uint8_of_lt (by omega)
  simp only [ranksIntact, Bool.and_eq_true, decide_eq_true_eq, List.all_eq_true, List.mem_range,
    hsize]
  refine ⟨⟨hmin, hmax⟩, fun rankId hlt => ?_⟩
  have hget := List.getElem?_eq_getElem hlt
  rw [getRankInfo, hsize, if_pos hlt, hget]
  exact beq_iff_eq.mpr (hids rankId _ hget)

theorem numbered_createDefaultGuildRanks (g : Guild) (trinityString : Nat → String) :
    Numbered ({ g with ranks := [] }.createDefaultGuildRanks trinityString).ranks ∧
      ({ g with ranks := [] }.createDefaultGuildRanks trinityString).ranks.length = 5 := by
  refine ⟨?_, rfl⟩
  have hnil : Numbered [] := by
    intro i rankInfo hget
    cases hget
  exact numbered_append rfl (numbered_append rfl (numbered_append rfl
    (numbered_append rfl (numbered_append rfl hnil))))

theorem numbered_repairRanks (hload : g.Loaded) (trinityString : Nat → String) :
    Numbered (g.repairRanks trinityString).ranks ∧
      guildRanksMinCount ≤ (g.repairRanks trinityString).ranks.length ∧
      (g.repairRanks trinityString).ranks.length ≤ guildRanksMaxCount := by
  rw [repairRanks]
  split
  · next hintact => exact numbered_of_ranksIntact hload.ranks_le hintact
  · obtain ⟨hids, hlen⟩ := numbered_createDefaultGuildRanks g trinityString
    rw [hlen]
    exact ⟨hids, by decide, by decide⟩

theorem length_repairRanks (hload : g.Loaded) (trinityString : Nat → String) :
    (g.repairRanks trinityString).ranks.length = g.loadedRanks := by
  rw [repairRanks, loadedRanks]
  by_cases hintact : g.ranksIntact = true
  · obtain ⟨hids, hmin, hmax⟩ := numbered_of_ranksIntact hload.ranks_le hintact
    rw [if_pos hintact, if_pos ⟨numbered_iff.mp hids, hmin, hmax⟩]
  · have hnot : ¬ (g.ranks.map RankInfo.id = List.range g.ranks.length ∧
        guildRanksMinCount ≤ g.ranks.length ∧ g.ranks.length ≤ guildRanksMaxCount) :=
      fun ⟨hids, hmin, hmax⟩ =>
        hintact (ranksIntact_of_numbered (numbered_iff.mpr hids) hmin hmax)
    rw [if_neg hintact, if_neg hnot]
    exact (numbered_createDefaultGuildRanks g trinityString).2

/-- The guild before its leader is looked at: only the leader may lack an existing rank. -/
structure Repaired (g : Guild) : Prop where
  ranked : ∀ m ∈ g.roster.members, m.lowGuid ≠ lowPart g.leaderGuid → m.rankId < g.ranks.length
  ids : Numbered g.ranks
  min_ranks : guildRanksMinCount ≤ g.ranks.length
  max_ranks : g.ranks.length ≤ guildRanksMaxCount
  guid_lt : ∀ m ∈ g.roster.members, m.guid < 2 ^ 32
  leaderGuid_lt : g.leaderGuid < 2 ^ 32

/-- The guild once its leader is a member of rank `0`; there may be other masters. -/
structure Led (g : Guild) : Prop extends Repaired g where
  leader : ∃ m ∈ g.roster.members, m.lowGuid = lowPart g.leaderGuid
  master : ∀ m ∈ g.roster.members, m.lowGuid = lowPart g.leaderGuid → m.rankId = grGuildmaster

theorem Loaded.repaired (hload : g.Loaded) {trinityString : Nat → String}
    (hstored : g.RanksStored) :
    (g.repairRanks trinityString).repairMembers.Repaired := by
  obtain ⟨hids, hmin, hmax⟩ := numbered_repairRanks hload trinityString
  have hlead := repairRanks_leaderGuid g trinityString
  have hroster := repairRanks_roster g trinityString
  have hten : (g.repairRanks trinityString).ranks.length ≤ 10 := hmax
  have htwo : 2 ≤ (g.repairRanks trinityString).ranks.length := hmin
  have hsize : (g.repairRanks trinityString).getRanksSize =
      (g.repairRanks trinityString).ranks.length := uint8_of_lt (by omega)
  have hguid : ∀ m ∈ (g.repairRanks trinityString).repairMembers.roster.members,
      m.guid < 2 ^ 32 := by
    intro m hm
    obtain ⟨m', hm', rfl⟩ := Roster.mem_rerank.mp hm
    exact hload.guid_lt m' (hroster ▸ hm')
  have hleader : (g.repairRanks trinityString).repairMembers.leaderGuid < 2 ^ 32 :=
    hlead.trans_lt hload.leaderGuid_lt
  refine ⟨?_, hids, hmin, hmax, hguid, hleader⟩
  intro m hm hne
  rw [Member.lowGuid, lowPart_of_lt (hguid m hm), lowPart_of_lt hleader] at hne
  obtain ⟨m', hm', rfl⟩ := Roster.mem_rerank.mp hm
  have hrank := hstored m' (hroster ▸ hm') (fun heq => hne (heq.trans hlead.symm))
  rw [← length_repairRanks hload trinityString] at hrank
  simp only [Member.changeRank, repairMembers]
  rw [hsize]
  split
  · rw [getLowestRankId, uint8]
    omega
  · omega

/-- The new leader gets rank `0`; the others had an existing rank before. -/
theorem Repaired.setLeaderGUID (h : g.Repaired) {newLeader : Member}
    (hmem : newLeader ∈ g.roster.members)
    (hothers : ∀ m ∈ g.roster.members, m.lowGuid ≠ newLeader.lowGuid →
      m.lowGuid ≠ lowPart g.leaderGuid) : (g.setLeaderGUID newLeader).Led where
  ranked := by
    intro m hm hne
    obtain ⟨m', hm', -, hkey, hrank⟩ := mem_changeRank hm
    have hnew : m'.lowGuid ≠ newLeader.lowGuid := hkey ▸ hne
    rw [hrank, if_neg hnew]
    exact h.ranked m' hm' (hothers m' hm' hnew)
  ids := h.ids
  min_ranks := h.min_ranks
  max_ranks := h.max_ranks
  guid_lt := by
    intro m hm
    obtain ⟨m', hm', hguid, -, -⟩ := mem_changeRank hm
    rw [hguid]
    exact h.guid_lt m' hm'
  leaderGuid_lt := h.guid_lt newLeader hmem
  leader := exists_mem_setLeaderGUID hmem
  master := by
    intro m hm hlead
    obtain ⟨m', hm', -, hkey, hrank⟩ := mem_changeRank hm
    have hnew : m'.lowGuid = newLeader.lowGuid := hkey.symm.trans hlead
    rw [hrank, if_pos hnew]
    rfl

theorem Led.eraseMember (h : g.Led) {key : Nat} (hne : key ≠ lowPart g.leaderGuid) :
    { g with roster := g.roster.erase key }.Led where
  ranked := fun m hm => h.ranked m (Roster.mem_erase.mp hm).1
  ids := h.ids
  min_ranks := h.min_ranks
  max_ranks := h.max_ranks
  guid_lt := fun m hm => h.guid_lt m (Roster.mem_erase.mp hm).1
  leaderGuid_lt := h.leaderGuid_lt
  leader := by
    obtain ⟨m, hm, hkey⟩ := h.leader
    exact ⟨m, Roster.mem_erase.mpr ⟨hm, hkey ▸ hne.symm⟩, hkey⟩
  master := fun m hm => h.master m (Roster.mem_erase.mp hm).1

/-- The leader found or chosen has rank `0` afterwards. -/
theorem Repaired.repairLeader {g' : Guild} (h : g.Repaired) (hlead : g.repairLeader = some g') :
    g'.Led := by
  unfold Guild.repairLeader at hlead
  split at hlead
  · next hnone =>
      have habsent : ∀ m ∈ g.roster.members, m.lowGuid ≠ lowPart g.leaderGuid := by
        intro m hm hkey
        have hfound : g.getMember g.leaderGuid = some m :=
          Roster.find?_eq_some_iff.mpr ⟨hm, hkey⟩
        rw [hnone] at hfound
        cases hfound
      rw [Guild.deleteMember, if_pos rfl] at hlead
      split at hlead
      · cases hlead
      · next newLeader hfound =>
          obtain ⟨hmem, hne⟩ := findNewLeader_mem hfound
          cases hlead
          exact (h.setLeaderGUID hmem fun m hm _ => habsent m hm).eraseMember hne.symm
  · next leader hleader =>
      obtain ⟨hmem, hkey⟩ := getMember_mem hleader
      split at hlead
      · next hrank =>
          cases hlead
          refine ⟨h, ⟨leader, hmem, hkey⟩, ?_⟩
          intro m hm hm_key
          rw [Roster.eq_of_lowGuid_eq hm hmem (hm_key.trans hkey.symm)]
          exact beq_iff_eq.mp hrank
      · cases hlead
        exact h.setLeaderGUID hmem fun m _ hne => hkey ▸ hne

theorem Led.demoteOtherMasters (h : g.Led) : g.demoteOtherMasters.Invariant where
  leader := by
    obtain ⟨m, hm, hkey⟩ := h.leader
    exact ⟨_, Roster.mem_rerank.mpr ⟨m, hm, rfl⟩, hkey⟩
  fits := by
    intro m hm
    obtain ⟨m', hm', rfl⟩ := Roster.mem_rerank.mp hm
    have hsame : m'.isSamePlayer g.leaderGuid = true ↔ m'.lowGuid = lowPart g.leaderGuid := by
      rw [Member.isSamePlayer, beq_iff_eq, Member.lowGuid, lowPart_of_lt (h.guid_lt m' hm'),
        lowPart_of_lt h.leaderGuid_lt]
    by_cases hkey : m'.lowGuid = lowPart g.leaderGuid
    · have hrank : m'.rankId = grGuildmaster := h.master m' hm' hkey
      change g.demoteOtherMasters.Fits m'.lowGuid (if _ then _ else _)
      rw [hsame.mpr hkey, if_neg (fun hand => Bool.noConfusion hand.2), hkey, hrank]
      exact fits_leader.mpr rfl
    · have hlt := h.ranked m' hm' hkey
      have hmin : 2 ≤ g.ranks.length := h.min_ranks
      have hother : m'.isSamePlayer g.leaderGuid = false :=
        Bool.eq_false_iff.mpr fun htrue => hkey (hsame.mp htrue)
      refine (fits_of_ne (g := g.demoteOtherMasters) hkey).mpr ?_
      change _ < (if _ then _ else _) ∧ (if _ then _ else _) < g.ranks.length
      rw [hother]
      simp only [and_true, grGuildmaster, grOfficer]
      split
      · omega
      · omega
  ids := h.ids
  min_ranks := h.min_ranks
  max_ranks := h.max_ranks
  guid_lt := by
    intro m hm
    obtain ⟨m', hm', rfl⟩ := Roster.mem_rerank.mp hm
    exact h.guid_lt m' hm'
  leaderGuid_lt := h.leaderGuid_lt

/-- A guild that `Validate` accepts is in order. -/
theorem Loaded.validate {g' : Guild} (hload : g.Loaded) {trinityString : Nat → String}
    (hstored : g.RanksStored) (hvalid : g.validate trinityString false = some g') :
    g'.Invariant := by
  unfold Guild.validate at hvalid
  dsimp only at hvalid
  split at hvalid
  · cases hvalid
  · next repaired hlead =>
      cases hvalid
      exact ((hload.repaired hstored).repairLeader hlead).demoteOtherMasters

end Guild

/-! ### Whole runs -/

/-- The request is sound for the guild it meets; a disbanded guild meets none. -/
def SoundStep (g : Option Guild) (request : Request) : Prop :=
  ∀ g' ∈ g, request.sound g' = true

instance (g : Option Guild) (request : Request) : Decidable (SoundStep g request) :=
  match g with
  | none => isTrue fun _ h => nomatch h
  | some g => decidable_of_iff (request.sound g = true)
      ⟨fun h _ h' => Option.some.inj h' ▸ h, fun h => h g rfl⟩

theorem invariant_step {g : Option Guild} {request : Request} (h : ∀ g' ∈ g, g'.Invariant)
    (hsound : SoundStep g request) : ∀ g' ∈ step g request, g'.Invariant := by
  intro g' hg'
  obtain ⟨before, hbefore, hhandle⟩ := Option.bind_eq_some_iff.mp hg'
  exact (h before hbefore).handle (hsound before hbefore) hhandle

/-- Along sound requests, a validated guild is in order in every state that is reached. -/
theorem structured_of_sound (loaded validated : Guild) (trinityString : Nat → String)
    (hload : loaded.Loaded) (hstored : loaded.RanksStored)
    (hvalid : loaded.validate trinityString false = some validated) (requests : List Request)
    (hsound : Runs.Admissible step SoundStep (some validated) requests) (before : List Request)
    (hbefore : before <+: requests) (g : Guild)
    (hg : Runs.run step (some validated) before = some g) : g.Structured := by
  have hinit : ∀ g' ∈ some validated, g'.Invariant := by
    intro g' hg'
    cases hg'
    exact hload.validate hstored hvalid
  have hrun := hsound.invariant (P := fun s => ∀ g' ∈ s, g'.Invariant) invariant_step hinit hbefore
  exact (hrun g hg).structured

theorem aRoster_nodup :
    ([⟨1, "Ada", 0⟩, ⟨2, "Bob", 1⟩, ⟨3, "Cyd", 4⟩].map Member.lowGuid).Nodup := by decide

/-- Three members as the database stores them: the leader, an officer and an initiate. -/
def aGuild : Guild where
  leaderGuid := 1
  ranks := [⟨0, "Guild Master", grRightAll, 0⟩, ⟨1, "Officer", grRightAll, 0⟩,
    ⟨2, "Veteran", 0x43, 0⟩, ⟨3, "Member", 0x43, 0⟩, ⟨4, "Initiate", 0x43, 0⟩]
  roster := ⟨[⟨1, "Ada", 0⟩, ⟨2, "Bob", 1⟩, ⟨3, "Cyd", 4⟩], aRoster_nodup⟩

theorem aGuild_loaded : aGuild.Loaded :=
  ⟨by decide, by decide, by decide⟩

/-- A new master is named, the old one leaves, and a rank is removed. -/
theorem structured_after_election :
    ∃ g, Runs.run step (some aGuild) [.setNewGuildMaster 1 "Bob", .deleteMember 1,
      .setMemberRank 2 3 3, .removeRank 2 2] = some g ∧ g.Structured := by
  have hvalid : aGuild.validate (fun _ => "") false = some aGuild := by decide +kernel
  have hsome : (Runs.run step (some aGuild) [.setNewGuildMaster 1 "Bob", .deleteMember 1,
      .setMemberRank 2 3 3, .removeRank 2 2]).isSome = true := by decide +kernel
  obtain ⟨g, hg⟩ := Option.isSome_iff_exists.mp hsome
  refine ⟨g, hg, ?_⟩
  exact structured_of_sound aGuild aGuild (fun _ => "") aGuild_loaded (by decide +kernel) hvalid
    [.setNewGuildMaster 1 "Bob", .deleteMember 1, .setMemberRank 2 3 3, .removeRank 2 2]
    (by decide +kernel) _ (List.prefix_refl _) g hg

/-- The leader names himself, an officer sends an odd rank, the lowest or the first rank is
moved from under its members, the leader joins again: the guild is out of order at once. -/
theorem guild_out_of_order :
    aGuild.Loaded ∧ aGuild.validate (fun _ => "") false = some aGuild ∧
      ∀ request ∈ [Request.setNewGuildMaster 1 "Ada", .setMemberRank 2 3 0,
        .setMemberRank 2 3 7, .setMemberRank 2 1 2, .removeRank 1 2, .switchRank 1 0 false,
        .addMember ⟨1, "Ada", true, 0, true⟩ guildRankNone],
        ∃ g, Runs.run step (some aGuild) [request] = some g ∧ ¬ g.Structured := by
  refine ⟨aGuild_loaded, by decide +kernel, ?_⟩
  have hfail : ∀ request ∈ [Request.setNewGuildMaster 1 "Ada", .setMemberRank 2 3 0,
      .setMemberRank 2 3 7, .setMemberRank 2 1 2, .removeRank 1 2, .switchRank 1 0 false,
      .addMember ⟨1, "Ada", true, 0, true⟩ guildRankNone],
      (Runs.run step (some aGuild) [request]).any (fun g => decide (¬ g.Structured)) = true := by
    decide +kernel
  intro request hrequest
  obtain ⟨g, hg, hbad⟩ := Option.any_eq_true _ _ |>.mp (hfail request hrequest)
  exact ⟨g, hg, of_decide_eq_true hbad⟩

end Cataclysm.Guilds
