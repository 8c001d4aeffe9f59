import Cataclysm.Guilds.Hierarchy

/-!
# What `Validate` repairs

`Validate` restores the ranks, moves members whose rank does not exist to the lowest rank, finds a
leader and demotes other masters. A rank id does not exist from the number of ranks on, but members
are moved only if their rank id exceeds it. So a member who was stored with exactly that id keeps
it, unless he becomes the leader.
-/

namespace Cataclysm.Guilds
namespace Guild

/-- A loaded guild that can be played with. -/
structure LoadRepaired (g : Guild) (allowMultipleGuildMaster : Bool) : Prop where
  leader : ∃ m, g.getMember g.leaderGuid = some m ∧ m.rankId = grGuildmaster
  ranked : ∀ m ∈ g.roster.members, m.rankId < g.ranks.length
  ids : Numbered g.ranks
  min_ranks : guildRanksMinCount ≤ g.ranks.length
  max_ranks : g.ranks.length ≤ guildRanksMaxCount
  unique : allowMultipleGuildMaster = false →
    ∀ m ∈ g.roster.members, m.rankId = grGuildmaster → m.guid = g.leaderGuid

/-! ### The members of a validated guild -/

/-- The members of a guild are those of another one with new ranks. -/
def Reranks (g g' : Guild) (rank : Member → Nat) : Prop :=
  ∀ m, m ∈ g'.roster.members ↔ ∃ m' ∈ g.roster.members, m'.changeRank (rank m') = m

theorem reranks_setLeaderGUID (g : Guild) (leader : Member) :
    Reranks g (g.setLeaderGUID leader) fun m =>
      if m.lowGuid = leader.lowGuid then grGuildmaster else m.rankId :=
  fun _ => Roster.mem_rerank

/-- Whoever leads the guild afterwards was a member before; he had been the leader, or there was
none and he has the best rank. Nobody else changes his rank. -/
theorem repairLeader_spec {g g' : Guild} (h : g.repairLeader = some g') :
    ∃ leader ∈ g.roster.members, (g'.leaderGuid = leader.guid ∨ g'.leaderGuid = g.leaderGuid) ∧
      lowPart g'.leaderGuid = leader.lowGuid ∧ g'.ranks = g.ranks ∧
      (Reranks g g' fun m =>
        if m.lowGuid = leader.lowGuid then grGuildmaster else m.rankId) ∧
      (leader.lowGuid = lowPart g.leaderGuid ∨
        g.getMember g.leaderGuid = none ∧ ∀ m ∈ g.roster.members, leader.rankId ≤ m.rankId) := by
  unfold repairLeader at h
  split at h
  · next hnone =>
      have habsent : ∀ m ∈ g.roster.members, m.lowGuid ≠ lowPart g.leaderGuid := by
        intro m hm hkey
        have hfound : g.getMember g.leaderGuid = some m := Roster.find?_eq_some_iff.mpr ⟨hm, hkey⟩
        rw [hnone] at hfound
        cases hfound
      rw [deleteMember, if_pos rfl] at h
      split at h
      · cases h
      · next leader hfound =>
          cases h
          have hbest : ∀ m ∈ g.roster.members, leader.rankId ≤ m.rankId := by
            intro m hm
            obtain ⟨best, hbest, hle⟩ := findNewLeader_best hm (habsent m hm)
            obtain rfl := Option.some.inj (hbest.symm.trans hfound)
            exact hle
          refine ⟨leader, (findNewLeader_mem hfound).1, Or.inl rfl, rfl, rfl, fun m => ?_,
            Or.inr ⟨hnone, hbest⟩⟩
          refine Roster.mem_erase.trans
            ⟨fun hand => (reranks_setLeaderGUID g leader m).mp hand.1, ?_⟩
          rintro ⟨m', hm', rfl⟩
          exact ⟨(reranks_setLeaderGUID g leader _).mpr ⟨m', hm', rfl⟩, habsent m' hm'⟩
  · next leader hleader =>
      obtain ⟨hmem, hkey⟩ := getMember_mem hleader
      split at h
      · next hrank =>
          cases h
          have hsame : ∀ m ∈ g.roster.members, m.changeRank
              (if m.lowGuid = leader.lowGuid then grGuildmaster else m.rankId) = m := by
            intro m hm
            split
            · next heq =>
                rw [Roster.eq_of_lowGuid_eq hm hmem heq, Member.changeRank, ← beq_iff_eq.mp hrank]
            · rfl
          refine ⟨leader, hmem, Or.inr rfl, hkey.symm, rfl,
            fun m => ⟨fun hm => ⟨m, hm, hsame m hm⟩, ?_⟩, Or.inl hkey⟩
          rintro ⟨m', hm', rfl⟩
          rwa [hsame m' hm']
      · cases h
        exact ⟨leader, hmem, Or.inl rfl, rfl, rfl, reranks_setLeaderGUID g leader, Or.inl hkey⟩

/-- The guild after the first two repairs of `Validate`. -/
def ranked (g : Guild) (trinityString : Nat → String) : Guild :=
  (g.repairRanks trinityString).repairMembers

/-- The rank that a member has in the end. -/
def finalRank (leader : Member) (allowMultipleGuildMaster : Bool) (m : Member) : Nat :=
  if m.lowGuid = leader.lowGuid then grGuildmaster
  else if allowMultipleGuildMaster = false ∧ m.rankId = grGuildmaster then grOfficer
  else m.rankId

theorem Loaded.guid_ranked {g : Guild} (h : g.Loaded) (trinityString : Nat → String) :
    ∀ m ∈ (g.ranked trinityString).roster.members, m.guid < 2 ^ 32 := by
  intro m hm
  obtain ⟨m', hm', rfl⟩ := Roster.mem_rerank.mp hm
  rw [repairRanks_roster] at hm'
  exact h.guid_lt m' hm'

/-- What `Validate` makes of the members once their ranks were checked. -/
theorem Loaded.validate_spec {g g' : Guild} (hload : g.Loaded) {trinityString : Nat → String}
    {allow : Bool} (hvalid : g.validate trinityString allow = some g') :
    ∃ leader ∈ (g.ranked trinityString).roster.members,
      g'.leaderGuid < 2 ^ 32 ∧ lowPart g'.leaderGuid = leader.lowGuid ∧
      g'.ranks = (g.repairRanks trinityString).ranks ∧
      Reranks (g.ranked trinityString) g' (finalRank leader allow) ∧
      (leader.lowGuid = lowPart g.leaderGuid ∨
        (g.ranked trinityString).getMember g.leaderGuid = none ∧
          ∀ m ∈ (g.ranked trinityString).roster.members, leader.rankId ≤ m.rankId) := by
  unfold Guild.validate at hvalid
  dsimp only at hvalid
  split at hvalid
  · cases hvalid
  · next led hlead =>
      obtain ⟨leader, hmem, hguid, hkey, hranks, hreranks, hwho⟩ := repairLeader_spec hlead
      have hleaderGuid : (g.repairRanks trinityString).repairMembers.leaderGuid = g.leaderGuid :=
        repairRanks_leaderGuid g trinityString
      rw [hleaderGuid] at hwho hguid
      have hled : led.leaderGuid < 2 ^ 32 := by
        obtain heq | heq := hguid
        · exact heq ▸ hload.guid_ranked trinityString leader hmem
        · exact heq ▸ hload.leaderGuid_lt
      cases hvalid
      cases allow with
      | true =>
        have hfinal : finalRank leader true = fun m =>
            if m.lowGuid = leader.lowGuid then grGuildmaster else m.rankId := by
          funext m
          simp [finalRank]
        exact ⟨leader, hmem, hled, hkey, hranks, hfinal ▸ hreranks, hwho⟩
      | false =>
        refine ⟨leader, hmem, hled, hkey, hranks, fun m => ?_, hwho⟩
        -- a master keeps his rank exactly if he is the leader
        have hstep : ∀ m' ∈ (g.ranked trinityString).roster.members,
            (m'.changeRank (if m'.lowGuid = leader.lowGuid then grGuildmaster
              else m'.rankId)).changeRank
              (if (if m'.lowGuid = leader.lowGuid then grGuildmaster else m'.rankId) =
                  grGuildmaster ∧ m'.isSamePlayer led.leaderGuid = false then grOfficer
                else if m'.lowGuid = leader.lowGuid then grGuildmaster else m'.rankId) =
              m'.changeRank (finalRank leader false m') := by
          intro m' hm'
          have hsame : m'.isSamePlayer led.leaderGuid = true ↔ m'.lowGuid = leader.lowGuid := by
            rw [Member.isSamePlayer, beq_iff_eq, ← hkey, Member.lowGuid,
              lowPart_of_lt (hload.guid_ranked trinityString m' hm'), lowPart_of_lt hled]
          by_cases heq : m'.lowGuid = leader.lowGuid
          · simp [finalRank, heq, hsame.mpr heq, Member.changeRank]
          · have hother := Bool.eq_false_iff.mpr (mt hsame.mp heq)
            simp [finalRank, heq, hother, Member.changeRank]
        refine Roster.mem_rerank.trans ⟨?_, ?_⟩
        · rintro ⟨m₁, hm₁, rfl⟩
          obtain ⟨m', hm', rfl⟩ := (hreranks m₁).mp hm₁
          exact ⟨m', hm', (hstep m' hm').symm⟩
        · rintro ⟨m', hm', rfl⟩
          exact ⟨_, (hreranks _).mpr ⟨m', hm', rfl⟩, hstep m' hm'⟩

/-- The rank of a stored member after the second repair. -/
def clampedRank (g : Guild) (trinityString : Nat → String) (m : Member) : Nat :=
  if m.rankId > (g.repairRanks trinityString).ranks.length then
    (g.repairRanks trinityString).ranks.length - 1
  else m.rankId

theorem Loaded.reranks_ranked {g : Guild} (hload : g.Loaded) (trinityString : Nat → String) :
    Reranks g (g.ranked trinityString) (g.clampedRank trinityString) := by
  intro m
  obtain ⟨-, hmin, hmax⟩ := numbered_repairRanks hload trinityString
  have htwo : 2 ≤ (g.repairRanks trinityString).ranks.length := hmin
  have hten : (g.repairRanks trinityString).ranks.length ≤ 10 := hmax
  have hsize : (g.repairRanks trinityString).getRanksSize =
      (g.repairRanks trinityString).ranks.length := uint8_of_lt (by omega)
  have hlowest : (g.repairRanks trinityString).getLowestRankId =
      (g.repairRanks trinityString).ranks.length - 1 := by
    rw [getLowestRankId, uint8]
    omega
  rw [ranked, repairMembers]
  simp only [hsize, hlowest, Roster.mem_rerank, repairRanks_roster]
  rfl

section Outcome

variable {g : Guild} {trinityString : Nat → String} {leader m : Member} {allow : Bool}

/-- The clamped rank exists unless the stored one is the first that does not. -/
theorem Loaded.clampedRank_lt_iff (hload : g.Loaded) :
    g.clampedRank trinityString m < (g.repairRanks trinityString).ranks.length ↔
      m.rankId ≠ (g.repairRanks trinityString).ranks.length := by
  obtain ⟨-, hmin, -⟩ := numbered_repairRanks hload trinityString
  have htwo : 2 ≤ (g.repairRanks trinityString).ranks.length := hmin
  unfold clampedRank
  split
  · omega
  · omega

theorem finalRank_lt_iff {n : Nat} (hn : 2 ≤ n) :
    finalRank leader allow m < n ↔ (m.lowGuid ≠ leader.lowGuid → m.rankId < n) := by
  unfold finalRank grGuildmaster grOfficer
  split
  · next hkey => exact iff_of_true (by omega) fun hne => absurd hkey hne
  · next hkey =>
      split
      · next hand => exact iff_of_true (by omega) fun _ => by omega
      · exact ⟨fun hlt _ => hlt, fun hlt => hlt hkey⟩

theorem lowGuid_of_finalRank_eq (h : finalRank leader false m = grGuildmaster) :
    m.lowGuid = leader.lowGuid := by
  by_contra hkey
  rw [finalRank, if_neg hkey] at h
  split at h
  · cases h
  · next hnot => exact hnot ⟨rfl, h⟩

/-- Everything but the rank ids that exceed by one is in order after `Validate`. -/
theorem Loaded.loadRepaired_iff_of_leader {g' : Guild} (hload : g.Loaded)
    (hmem : leader ∈ (g.ranked trinityString).roster.members) (hguid : g'.leaderGuid < 2 ^ 32)
    (hkey : lowPart g'.leaderGuid = leader.lowGuid)
    (hranks : g'.ranks = (g.repairRanks trinityString).ranks)
    (hreranks : Reranks (g.ranked trinityString) g' (finalRank leader allow)) :
    g'.LoadRepaired allow ↔ ∀ m ∈ g.roster.members, m.lowGuid ≠ leader.lowGuid →
      m.rankId ≠ (g.repairRanks trinityString).ranks.length := by
  obtain ⟨hids, hmin, hmax⟩ := numbered_repairRanks hload trinityString
  have hclamped := hload.reranks_ranked trinityString
  constructor
  · intro h m hm hne
    have hranked := (hclamped (m.changeRank (g.clampedRank trinityString m))).mpr ⟨m, hm, rfl⟩
    have hlt := h.ranked _ ((hreranks _).mpr ⟨_, hranked, rfl⟩)
    rw [hranks] at hlt
    exact hload.clampedRank_lt_iff.mp ((finalRank_lt_iff hmin).mp hlt hne)
  · intro h
    refine ⟨?_, ?_, hranks ▸ hids, hranks ▸ hmin, hranks ▸ hmax, ?_⟩
    · refine ⟨_, Roster.find?_eq_some_iff.mpr
        ⟨(hreranks _).mpr ⟨leader, hmem, rfl⟩, hkey.symm⟩, ?_⟩
      simp [Member.changeRank, finalRank]
    · intro m hm
      obtain ⟨m₁, hm₁, rfl⟩ := (hreranks m).mp hm
      obtain ⟨m₂, hm₂, rfl⟩ := (hclamped m₁).mp hm₁
      rw [hranks]
      exact (finalRank_lt_iff hmin).mpr fun hne => hload.clampedRank_lt_iff.mpr (h m₂ hm₂ hne)
    · rintro rfl m hm hrank
      obtain ⟨m₁, hm₁, rfl⟩ := (hreranks m).mp hm
      have hlow := lowGuid_of_finalRank_eq hrank
      rw [← hkey, Member.lowGuid, lowPart_of_lt (hload.guid_ranked trinityString m₁ hm₁),
        lowPart_of_lt hguid] at hlow
      exact hlow

end Outcome

/-- `Validate` leaves a guild in order exactly when nobody but the leader is stored with the first
rank id that does not exist, or the only member has to lead. -/
theorem Loaded.loadRepaired_iff {g g' : Guild} {trinityString : Nat → String} {allow : Bool}
    (hload : g.Loaded) (hvalid : g.validate trinityString allow = some g') :
    g'.LoadRepaired allow ↔ g.RanksStored ∨
      (g.getMember g.leaderGuid = none ∧ g.roster.members.length = 1) := by
  obtain ⟨leader, hmem, hguid, hkey, hranks, hreranks, hwho⟩ := hload.validate_spec hvalid
  rw [hload.loadRepaired_iff_of_leader hmem hguid hkey hranks hreranks, RanksStored,
    ← length_repairRanks hload trinityString]
  have hclamped := hload.reranks_ranked trinityString
  have hlow : ∀ m ∈ g.roster.members, m.lowGuid = lowPart g.leaderGuid ↔ m.guid = g.leaderGuid := by
    intro m hm
    rw [Member.lowGuid, lowPart_of_lt (hload.guid_lt m hm), lowPart_of_lt hload.leaderGuid_lt]
  obtain ⟨stored, hstored, rfl⟩ := (hclamped leader).mp hmem
  obtain hold | ⟨hnone, hbest⟩ := hwho
  · -- the stored leader keeps the lead
    have hpresent : g.getMember g.leaderGuid ≠ none := by
      have hfound : g.getMember g.leaderGuid = some stored :=
        Roster.find?_eq_some_iff.mpr ⟨hstored, hold⟩
      simp [hfound]
    have hkeys : ∀ m ∈ g.roster.members, m.lowGuid ≠ stored.lowGuid ↔ m.guid ≠ g.leaderGuid := by
      intro m hm
      change stored.lowGuid = lowPart g.leaderGuid at hold
      rw [hold, ne_eq, hlow m hm]
    constructor
    · exact fun h => Or.inl fun m hm hne => h m hm ((hkeys m hm).mpr hne)
    · rintro (h | ⟨habsent, -⟩) m hm hne
      · exact h m hm ((hkeys m hm).mp hne)
      · exact absurd habsent hpresent
  · have habsent : ∀ m ∈ g.roster.members, m.guid ≠ g.leaderGuid := by
      intro m hm heq
      have hranked := (hclamped (m.changeRank (g.clampedRank trinityString m))).mpr ⟨m, hm, rfl⟩
      have hfound : (g.ranked trinityString).getMember g.leaderGuid =
          some (m.changeRank (g.clampedRank trinityString m)) :=
        Roster.find?_eq_some_iff.mpr ⟨hranked, (hlow m hm).mpr heq⟩
      rw [hnone] at hfound
      cases hfound
    have hnone' : g.getMember g.leaderGuid = none := by
      by_contra hsome
      obtain ⟨m, hm⟩ := Option.ne_none_iff_exists'.mp hsome
      obtain ⟨hmember, hmkey⟩ := getMember_mem hm
      exact habsent m hmember ((hlow m hmember).mp hmkey)
    constructor
    · intro h
      by_cases hlost : stored.rankId = (g.repairRanks trinityString).ranks.length
      · -- the elected member is one of those, and nobody stood better
        refine Or.inr ⟨hnone', ?_⟩
        have honly : ∀ m ∈ g.roster.members, m = stored := by
          intro m hm
          by_contra hne
          have hother : m.lowGuid ≠ stored.lowGuid :=
            fun heq => hne (Roster.eq_of_lowGuid_eq hm hstored heq)
          have hlt := hload.clampedRank_lt_iff.mpr (h m hm hother)
          have hle := hbest _ ((hclamped (m.changeRank (g.clampedRank trinityString m))).mpr
            ⟨m, hm, rfl⟩)
          have hlast : g.clampedRank trinityString stored =
              (g.repairRanks trinityString).ranks.length := by
            simp [clampedRank, hlost]
          simp only [Member.changeRank, hlast] at hle
          omega
        have hnodup : g.roster.members.Nodup := g.roster.nodup.of_map
        have hreplicate := List.eq_replicate_of_mem honly
        have hle : g.roster.members.length ≤ 1 :=
          List.nodup_replicate.mp (by rw [← hreplicate]; exact hnodup)
        exact le_antisymm hle (List.length_pos_of_mem hstored)
      · refine Or.inl fun m hm _ heq => ?_
        by_cases hsame : m.lowGuid = stored.lowGuid
        · exact hlost (Roster.eq_of_lowGuid_eq hm hstored hsame ▸ heq)
        · exact h m hm hsame heq
    · rintro (h | ⟨-, hone⟩) m hm hne
      · exact h m hm (habsent m hm)
      · obtain ⟨only, honly⟩ := List.length_eq_one_iff.mp hone
        rw [honly, List.mem_singleton] at hm hstored
        exact absurd (by rw [hm, hstored]; rfl) hne

end Guild

open Guild

/-- The stored guild of five ranks is repaired: nobody has rank id `5`. -/
theorem loadRepaired_aGuild : aGuild.LoadRepaired false := by
  have hvalid : aGuild.validate (fun _ => "") false = some aGuild := by decide +kernel
  exact (aGuild_loaded.loadRepaired_iff hvalid).mpr (Or.inl (by decide +kernel))

theorem strayRoster_nodup : ([⟨1, "Ada", 0⟩, ⟨2, "Bob", 5⟩].map Member.lowGuid).Nodup := by decide

/-- Bob is stored with the first rank id that does not exist. -/
def strayGuild : Guild :=
  { aGuild with roster := ⟨[⟨1, "Ada", 0⟩, ⟨2, "Bob", 5⟩], strayRoster_nodup⟩ }

/-- `Validate` accepts the guild as it is, with a member whose rank does not exist. -/
theorem strayRank_survives :
    strayGuild.Loaded ∧ strayGuild.validate (fun _ => "") false = some strayGuild ∧
      strayGuild.ranks.length = 5 ∧ ∃ m ∈ strayGuild.roster.members, m.rankId = 5 :=
  ⟨⟨by decide, by decide, by decide⟩, by decide +kernel, rfl, ⟨2, "Bob", 5⟩, by decide, rfl⟩

end Cataclysm.Guilds
