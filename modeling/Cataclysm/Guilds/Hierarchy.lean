import Cataclysm.Guilds.Structure

/-!
# The hierarchy of ranks

A member acts on others when he removes, promotes, demotes or assigns a rank. The hierarchy is
respected when nobody of the actor's own rank or above is touched and nobody gets such a rank, or a
rank that does not exist. Promotion, demotion and removal compare ranks; the assignment of a rank
compares none.

## Implementation notes

The guild may be in any state, also one in which the leader or the actor has an odd rank. What the
handlers then do is part of the condition.
-/

namespace Cataclysm.Guilds

/-- The requests by which a member acts on a member. -/
inductive MemberRequest
  | removeMember (guid : Nat)
  | updateMemberRank (guid : Nat) (demote : Bool)
  | setMemberRank (targetGuid rank : Nat)
  deriving DecidableEq

namespace Guild

def ask (g : Guild) (player : Nat) : MemberRequest → Option Guild
  | .removeMember guid => g.handleRemoveMember player guid
  | .updateMemberRank guid demote => some (g.handleUpdateMemberRank player guid demote)
  | .setMemberRank targetGuid rank => some (g.handleSetMemberRank player targetGuid rank)

def rankOf (g : Guild) (key : Nat) : Option Nat := (g.roster.find? key).map Member.rankId

def rankExists (g : Guild) (rankId : Nat) : Bool := (g.getRankInfo rankId).isSome

/-- Who is not below the own rank keeps his rank, and a rank that is given exists and is below the
own one. -/
structure RespectsHierarchy (g : Guild) (own : Nat) (g' : Guild) : Prop where
  superiors : ∀ m ∈ g.roster.members, m.rankId ≤ own → g'.rankOf m.lowGuid = some m.rankId
  given : ∀ m ∈ g'.roster.members, g.rankOf m.lowGuid ≠ some m.rankId →
    own < m.rankId ∧ g.rankExists m.rankId = true

variable {g : Guild} {own : Nat}

theorem rankOf_of_mem {m : Member} (hm : m ∈ g.roster.members) :
    g.rankOf m.lowGuid = some m.rankId := by
  rw [rankOf, Roster.find?_eq_some_iff.mpr ⟨hm, rfl⟩]
  rfl

theorem RespectsHierarchy.refl (g : Guild) (own : Nat) : g.RespectsHierarchy own g where
  superiors := fun _ hm _ => rankOf_of_mem hm
  given := fun _ hm hne => absurd (rankOf_of_mem hm) hne

/-! ### Effects of the requests -/

/-- One member gets another rank. -/
theorem respectsHierarchy_changeRank {member : Member} (hmem : member ∈ g.roster.members)
    (newRank : Nat) :
    g.RespectsHierarchy own (g.changeRank member.lowGuid newRank) ↔
      uint8 newRank = member.rankId ∨
        own < member.rankId ∧ own < uint8 newRank ∧ g.rankExists (uint8 newRank) = true := by
  have hchanged : member.changeRank (uint8 newRank) ∈
      (g.changeRank member.lowGuid newRank).roster.members := by
    refine Roster.mem_rerank.mpr ⟨member, hmem, ?_⟩
    rw [if_pos rfl]
  constructor
  · intro h
    by_cases hsame : uint8 newRank = member.rankId
    · exact Or.inl hsame
    · have hgiven := h.given _ hchanged (by
        rw [show (member.changeRank (uint8 newRank)).lowGuid = member.lowGuid from rfl,
          rankOf_of_mem hmem]
        exact fun heq => hsame (Option.some.inj heq).symm)
      refine Or.inr ⟨?_, hgiven⟩
      by_contra hle
      have hkept := h.superiors member hmem (Nat.le_of_not_lt hle)
      have hnow : (g.changeRank member.lowGuid newRank).rankOf member.lowGuid =
          some (uint8 newRank) := rankOf_of_mem hchanged
      rw [hnow] at hkept
      exact hsame (Option.some.inj hkept)
  · intro h
    constructor
    · intro m hm hle
      have hmoved : m.changeRank (if m.lowGuid = member.lowGuid then uint8 newRank else m.rankId) ∈
          (g.changeRank member.lowGuid newRank).roster.members :=
        Roster.mem_rerank.mpr ⟨m, hm, rfl⟩
      have hnow : (g.changeRank member.lowGuid newRank).rankOf m.lowGuid =
          some (if m.lowGuid = member.lowGuid then uint8 newRank else m.rankId) :=
        rankOf_of_mem hmoved
      rw [hnow]
      split
      · next hkey =>
          rw [Roster.eq_of_lowGuid_eq hm hmem hkey] at hle ⊢
          obtain hsame | ⟨hlt, -, -⟩ := h
          · rw [hsame]
          · exact absurd hle (Nat.not_le.mpr hlt)
      · rfl
    · intro m hm hne
      obtain ⟨m', hm', -, hkey, hrank⟩ := mem_changeRank hm
      rw [hkey, rankOf_of_mem hm'] at hne
      by_cases heq : m'.lowGuid = member.lowGuid
      · rw [if_pos heq] at hrank
        rw [hrank, Roster.eq_of_lowGuid_eq hm' hmem heq] at hne
        rw [hrank]
        exact (h.resolve_left fun hsame => hne (by rw [hsame])).2
      · rw [if_neg heq] at hrank
        exact absurd (by rw [hrank]) hne

/-- A member below the own rank goes. -/
theorem respectsHierarchy_erase {member : Member} (hmem : member ∈ g.roster.members)
    (hlt : own < member.rankId) :
    g.RespectsHierarchy own { g with roster := g.roster.erase member.lowGuid } where
  superiors := by
    intro m hm hle
    refine rankOf_of_mem (g := { g with roster := g.roster.erase member.lowGuid })
      (Roster.mem_erase.mpr ⟨hm, ?_⟩)
    intro hkey
    rw [Roster.eq_of_lowGuid_eq hm hmem hkey] at hle
    exact absurd hle (Nat.not_le.mpr hlt)
  given := by
    intro m hm hne
    exact absurd (rankOf_of_mem (Roster.mem_erase.mp hm).1) hne

theorem betterLeader_le {lowguid : Nat} {best : Option Member} {a m : Member}
    (h : betterLeader lowguid best a = some m) :
    (∀ b, best = some b → m.rankId ≤ b.rankId) ∧ (a.lowGuid ≠ lowguid → m.rankId ≤ a.rankId) := by
  unfold betterLeader at h
  split at h
  · next hkey =>
      subst h
      exact ⟨fun b hb => by rw [Option.some.inj hb], fun hne => absurd hkey hne⟩
  · split at h
    · cases h
      refine ⟨?_, fun _ => le_refl _⟩
      intro b hb
      cases hb
    · next b =>
        split at h
        · next hlt =>
            cases h
            refine ⟨?_, fun _ => le_refl _⟩
            intro b' hb'
            cases hb'
            exact hlt.le
        · next hle =>
            cases h
            refine ⟨?_, fun _ => Nat.le_of_not_lt hle⟩
            intro b' hb'
            cases hb'
            exact le_refl _

theorem betterLeader_isSome (lowguid : Nat) (best : Option Member) (a : Member)
    (h : best.isSome = true ∨ a.lowGuid ≠ lowguid) : (betterLeader lowguid best a).isSome = true := by
  unfold betterLeader
  split
  · next hkey => exact h.resolve_right fun hne => hne hkey
  · split
    · rfl
    · split
      · rfl
      · rfl

/-- The new leader is of the best rank among the other members, if there are others. -/
theorem findNewLeader_best {lowguid : Nat} {members : List Member} {other : Member}
    (hother : other ∈ members) (hne : other.lowGuid ≠ lowguid) :
    ∃ m, findNewLeader lowguid members = some m ∧ m.rankId ≤ other.rankId := by
  have hfold : ∀ (rest : List Member) (best : Option Member),
      (∀ b, best = some b → ∃ m, rest.foldl (betterLeader lowguid) best = some m ∧
        m.rankId ≤ b.rankId) ∧
      (other ∈ rest → ∃ m, rest.foldl (betterLeader lowguid) best = some m ∧
        m.rankId ≤ other.rankId) := by
    intro rest
    induction rest with
    | nil =>
      intro best
      refine ⟨fun b hb => ⟨b, hb, le_refl _⟩, ?_⟩
      intro hin
      cases hin
    | cons a rest ih =>
      intro best
      obtain ⟨hkeep, hin⟩ := ih (betterLeader lowguid best a)
      constructor
      · intro b hb
        obtain ⟨next, hnext⟩ := Option.isSome_iff_exists.mp
          (betterLeader_isSome lowguid best a (Or.inl (by rw [hb]; rfl)))
        obtain ⟨m, hm, hle⟩ := hkeep next hnext
        exact ⟨m, hm, hle.trans ((betterLeader_le hnext).1 b hb)⟩
      · intro hmem
        obtain rfl | hmem := List.mem_cons.mp hmem
        · obtain ⟨next, hnext⟩ := Option.isSome_iff_exists.mp
            (betterLeader_isSome lowguid best other (Or.inr hne))
          obtain ⟨m, hm, hle⟩ := hkeep next hnext
          exact ⟨m, hm, hle.trans ((betterLeader_le hnext).2 hne)⟩
        · exact hin hmem
  exact (hfold members none).2 hother

/-- The leader goes and the best of the others takes his place. -/
theorem respectsHierarchy_succession {leader newLeader : Member}
    (hleader : leader ∈ g.roster.members) (hlt : own < leader.rankId)
    (hkey : leader.lowGuid = lowPart g.leaderGuid)
    (hfound : findNewLeader (lowPart g.leaderGuid) g.roster.members = some newLeader) :
    g.RespectsHierarchy own { g.setLeaderGUID newLeader with
        roster := (g.setLeaderGUID newLeader).roster.erase (lowPart g.leaderGuid) } ↔
      ∃ m ∈ g.roster.members, m.rankId = grGuildmaster := by
  obtain ⟨hmem, hne⟩ := findNewLeader_mem hfound
  constructor
  · intro h
    have hnew : newLeader.changeRank (uint8 grGuildmaster) ∈
        ((g.setLeaderGUID newLeader).roster.erase (lowPart g.leaderGuid)).members := by
      refine Roster.mem_erase.mpr ⟨Roster.mem_rerank.mpr ⟨newLeader, hmem, ?_⟩, hne⟩
      rw [if_pos rfl]
    by_contra hnone
    have hgiven := h.given _ hnew (by
      rw [show (newLeader.changeRank (uint8 grGuildmaster)).lowGuid = newLeader.lowGuid from rfl,
        rankOf_of_mem hmem]
      intro heq
      exact hnone ⟨newLeader, hmem, Option.some.inj heq⟩)
    exact absurd hgiven.1 (Nat.not_lt_zero own)
  · rintro ⟨m, hm, hzero⟩
    have hother : m.lowGuid ≠ lowPart g.leaderGuid := by
      intro heq
      rw [Roster.eq_of_lowGuid_eq hleader hm (hkey.trans heq.symm), hzero] at hlt
      exact Nat.not_lt_zero own hlt
    obtain ⟨best, hbest, hle⟩ := findNewLeader_best hm hother
    have hsame : best = newLeader := Option.some.inj (hbest.symm.trans hfound)
    rw [hsame, hzero] at hle
    have hkept : g.RespectsHierarchy own (g.changeRank newLeader.lowGuid grGuildmaster) :=
      (respectsHierarchy_changeRank hmem grGuildmaster).mpr (Or.inl (Nat.le_zero.mp hle).symm)
    have hleader' : leader ∈ (g.setLeaderGUID newLeader).roster.members := by
      refine Roster.mem_rerank.mpr ⟨leader, hleader, ?_⟩
      have hdiff : leader.lowGuid ≠ newLeader.lowGuid := fun heq => hne (heq.symm.trans hkey)
      rw [if_neg hdiff]
      rfl
    have herased := respectsHierarchy_erase hleader' hlt
    rw [hkey] at herased
    constructor
    · intro m' hm' hle'
      have hfirst := hkept.superiors m' hm' hle'
      rw [rankOf, Option.map_eq_some_iff] at hfirst
      obtain ⟨m'', hfind, hrank⟩ := hfirst
      obtain ⟨hm'', hkey''⟩ := Roster.find?_eq_some_iff.mp hfind
      rw [← hrank, ← hkey'']
      exact herased.superiors m'' hm'' (hrank.trans_le hle')
    · intro m' hm' hne'
      exact hkept.given m' (Roster.mem_erase.mp hm').1 hne'

end Guild

/-! ### When the hierarchy is respected -/

/-- What the handlers do not check themselves. -/
def MemberRequest.Harmless (g : Guild) (player own : Nat) : MemberRequest → Prop
  | .removeMember guid => guid = g.leaderGuid → g.hasRankRight player grRightRemove = true →
      ∀ member ∈ g.getMember guid, own < member.rankId →
        ∃ m ∈ g.roster.members, m.rankId = grGuildmaster
  | .updateMemberRank guid false => g.hasRankRight player grRightPromote = true →
      ∀ member ∈ g.getMember guid, member.guid ≠ player → uint8 (own + 1) < member.rankId →
        own ≠ 255 ∧ g.rankExists (member.rankId - 1) = true
  | .updateMemberRank guid true => g.hasRankRight player grRightDemote = true →
      ∀ member ∈ g.getMember guid, member.guid ≠ player → own < member.rankId →
        member.rankId < g.getLowestRankId → g.getRanksSize ≠ 0
  | .setMemberRank targetGuid rank => ∀ member ∈ g.getMember targetGuid,
      g.hasRankRight player (if rank > member.rankId then grRightDemote else grRightPromote) = true →
      member.guid ≠ player → uint8 rank = member.rankId ∨
        own < member.rankId ∧ own < uint8 rank ∧ g.rankExists (uint8 rank) = true

namespace Guild

variable {g : Guild} {player : Nat} {memberMe : Member}

/-- The hierarchy is respected by what a request makes of the guild. -/
def Respects (g : Guild) (own : Nat) (result : Option Guild) : Prop :=
  ∃ g', result = some g' ∧ g.RespectsHierarchy own g'

theorem respects_some {own : Nat} {g' : Guild} :
    g.Respects own (some g') ↔ g.RespectsHierarchy own g' := by
  constructor
  · rintro ⟨g'', heq, h⟩
    rw [Option.some.inj heq]
    exact h
  · intro h
    exact ⟨g', rfl, h⟩

theorem respects_handleRemoveMember (hme : g.getMember player = some memberMe) (guid : Nat) :
    g.Respects memberMe.rankId (g.handleRemoveMember player guid) ↔
      (MemberRequest.removeMember guid).Harmless g player memberMe.rankId := by
  rw [Guild.handleRemoveMember, MemberRequest.Harmless]
  by_cases hright : g.hasRankRight player grRightRemove = true
  · rw [if_pos hright]
    cases hget : g.getMember guid with
    | none => simp [respects_some, RespectsHierarchy.refl]
    | some member =>
      rw [hme]
      obtain ⟨hmem, hkey⟩ := getMember_mem hget
      by_cases hlow : memberMe.rankId < member.rankId
      · have hmaster : member.isRank grGuildmaster = false := by
          rw [Member.isRank, beq_eq_false_iff_ne]
          exact Nat.ne_zero_of_lt hlow
        have hnot : member.isRankNotLower memberMe.rankId = false := by
          rw [Member.isRankNotLower, decide_eq_false_iff_not]
          exact Nat.not_le.mpr hlow
        simp only [hmaster, hnot, Bool.false_eq_true, ↓reduceIte, Option.mem_def,
          Option.some.injEq, forall_eq', hlow, forall_const, hright]
        rw [Guild.deleteMember]
        by_cases hlead : g.leaderGuid = guid
        · rw [if_pos hlead, ← hlead]
          rw [← hlead] at hkey
          have hother : memberMe.lowGuid ≠ lowPart g.leaderGuid := by
            intro heq
            rw [Roster.eq_of_lowGuid_eq (getMember_mem hme).1 hmem (heq.trans hkey.symm)] at hlow
            exact lt_irrefl _ hlow
          obtain ⟨newLeader, hfound, -⟩ := findNewLeader_best (getMember_mem hme).1 hother
          rw [hfound]
          dsimp only
          rw [respects_some, respectsHierarchy_succession hmem hlow hkey hfound]
          exact ⟨fun h _ => h, fun h => h rfl⟩
        · rw [if_neg hlead, respects_some, ← hkey]
          refine iff_of_true (respectsHierarchy_erase hmem hlow) ?_
          intro heq
          exact absurd heq.symm hlead
      · have hnot : member.isRankNotLower memberMe.rankId = true :=
          decide_eq_true (Nat.le_of_not_lt hlow)
        dsimp only
        rw [hnot, if_pos rfl, ite_self, respects_some]
        refine iff_of_true (RespectsHierarchy.refl g _) ?_
        intro _ _ member' hmember' hlow'
        rw [Option.mem_some_iff.mp hmember'] at hlow
        exact absurd hlow' hlow
  · rw [if_neg hright, respects_some]
    refine iff_of_true (RespectsHierarchy.refl g _) ?_
    intro _ hright'
    exact absurd hright' hright

theorem rankExists_lowest (hsize : g.getRanksSize ≠ 0) {rankId : Nat}
    (hle : rankId ≤ g.getLowestRankId) : g.rankExists rankId = true := by
  rw [getRanksSize, uint8] at hsize
  rw [getLowestRankId, uint8] at hle
  have hlt : rankId < g.ranks.length % 2 ^ 8 := by omega
  have hlen : rankId < g.ranks.length := hlt.trans_le (Nat.mod_le _ _)
  rw [rankExists, getRankInfo, if_pos (show rankId < g.getRanksSize from hlt)]
  rw [List.getElem?_eq_getElem hlen]
  rfl

theorem respects_promote (hme : g.getMember player = some memberMe)
    (hranks : ∀ m ∈ g.roster.members, m.rankId < 2 ^ 8) (guid : Nat) :
    g.Respects memberMe.rankId (some (g.handleUpdateMemberRank player guid false)) ↔
      (MemberRequest.updateMemberRank guid false).Harmless g player memberMe.rankId := by
  rw [respects_some, Guild.handleUpdateMemberRank, MemberRequest.Harmless]
  by_cases hright : g.hasRankRight player grRightPromote = true
  · rw [if_neg Bool.false_ne_true, if_pos hright]
    cases hget : g.getMember guid with
    | none => simp [RespectsHierarchy.refl]
    | some member =>
      rw [hme]
      obtain ⟨hmem, -⟩ := getMember_mem hget
      simp only [hright, forall_const, Option.mem_def, Option.some.injEq, forall_eq']
      by_cases hself : member.guid = player
      · have hsame : member.isSamePlayer player = true := beq_iff_eq.mpr hself
        rw [if_pos hsame]
        exact iff_of_true (RespectsHierarchy.refl g _) fun hne => absurd hself hne
      · have hsame : member.isSamePlayer player = false := beq_eq_false_iff_ne.mpr hself
        rw [hsame, if_neg Bool.false_ne_true, updatedRank, if_neg Bool.false_ne_true]
        by_cases hlow : uint8 (memberMe.rankId + 1) < member.rankId
        · have hnot : member.isRankNotLower (uint8 (memberMe.rankId + 1)) = false := by
            rw [Member.isRankNotLower, decide_eq_false_iff_not]
            exact Nat.not_le.mpr hlow
          have hown := hranks memberMe (getMember_mem hme).1
          have hbyte := hranks member hmem
          rw [hnot, if_neg Bool.false_ne_true]
          dsimp only
          rw [respectsHierarchy_changeRank hmem, uint8_of_lt (by omega)]
          rw [uint8] at hlow
          constructor
          · intro h _ _
            obtain hsame' | ⟨hbelow, hnew, hexists⟩ := h
            · omega
            · exact ⟨by omega, hexists⟩
          · intro h
            obtain ⟨hne, hexists⟩ := h hself hlow
            exact Or.inr ⟨by omega, by omega, hexists⟩
        · have hnot : member.isRankNotLower (uint8 (memberMe.rankId + 1)) = true :=
            decide_eq_true (Nat.le_of_not_lt hlow)
          rw [hnot, if_pos rfl]
          exact iff_of_true (RespectsHierarchy.refl g _) fun _ hlow' => absurd hlow' hlow
  · rw [if_neg Bool.false_ne_true, if_neg hright]
    exact iff_of_true (RespectsHierarchy.refl g _) fun hright' => absurd hright' hright

theorem respects_demote (hme : g.getMember player = some memberMe) (guid : Nat) :
    g.Respects memberMe.rankId (some (g.handleUpdateMemberRank player guid true)) ↔
      (MemberRequest.updateMemberRank guid true).Harmless g player memberMe.rankId := by
  rw [respects_some, Guild.handleUpdateMemberRank, MemberRequest.Harmless]
  by_cases hright : g.hasRankRight player grRightDemote = true
  · rw [if_pos rfl, if_pos hright]
    cases hget : g.getMember guid with
    | none => simp [RespectsHierarchy.refl]
    | some member =>
      rw [hme]
      obtain ⟨hmem, -⟩ := getMember_mem hget
      simp only [hright, forall_const, Option.mem_def, Option.some.injEq, forall_eq']
      by_cases hself : member.guid = player
      · have hsame : member.isSamePlayer player = true := beq_iff_eq.mpr hself
        rw [if_pos hsame]
        exact iff_of_true (RespectsHierarchy.refl g _) fun hne => absurd hself hne
      · have hsame : member.isSamePlayer player = false := beq_eq_false_iff_ne.mpr hself
        rw [hsame, if_neg Bool.false_ne_true, updatedRank, if_pos rfl]
        by_cases hlow : memberMe.rankId < member.rankId
        · have hnot : member.isRankNotLower memberMe.rankId = false := by
            rw [Member.isRankNotLower, decide_eq_false_iff_not]
            exact Nat.not_le.mpr hlow
          rw [hnot, if_neg Bool.false_ne_true]
          by_cases hlowest : g.getLowestRankId ≤ member.rankId
          · rw [if_pos hlowest]
            refine iff_of_true (RespectsHierarchy.refl g _) ?_
            intro _ _ hlt
            exact absurd hlowest (Nat.not_le.mpr hlt)
          · rw [if_neg hlowest]
            have hlt : member.rankId < g.getLowestRankId := Nat.lt_of_not_le hlowest
            have hbyte : g.getLowestRankId < 2 ^ 8 := Nat.mod_lt _ (Nat.two_pow_pos 8)
            dsimp only
            rw [respectsHierarchy_changeRank hmem, uint8_of_lt (by omega)]
            constructor
            · intro h _ _ _ hzero
              obtain hsame' | ⟨-, -, hexists⟩ := h
              · omega
              · rw [rankExists, getRankInfo, hzero, if_neg (Nat.not_lt_zero _)] at hexists
                cases hexists
            · intro h
              exact Or.inr ⟨hlow, by omega, rankExists_lowest (h hself hlow hlt) (by omega)⟩
        · have hnot : member.isRankNotLower memberMe.rankId = true :=
            decide_eq_true (Nat.le_of_not_lt hlow)
          rw [hnot, if_pos rfl]
          exact iff_of_true (RespectsHierarchy.refl g _) fun _ hlow' => absurd hlow' hlow
  · rw [if_pos rfl, if_neg hright]
    exact iff_of_true (RespectsHierarchy.refl g _) fun hright' => absurd hright' hright

theorem respects_handleSetMemberRank (own targetGuid rank : Nat) :
    g.Respects own (some (g.handleSetMemberRank player targetGuid rank)) ↔
      (MemberRequest.setMemberRank targetGuid rank).Harmless g player own := by
  rw [respects_some, Guild.handleSetMemberRank, MemberRequest.Harmless]
  cases hget : g.getMember targetGuid with
  | none => simp [RespectsHierarchy.refl]
  | some member =>
    obtain ⟨hmem, -⟩ := getMember_mem hget
    simp only [Option.mem_def, Option.some.injEq, forall_eq']
    by_cases hright : g.hasRankRight player
        (if rank > member.rankId then grRightDemote else grRightPromote) = true
    · rw [if_neg (fun hfalse => Bool.false_ne_true (hfalse.symm.trans hright))]
      by_cases hself : member.guid = player
      · have hsame : member.isSamePlayer player = true := beq_iff_eq.mpr hself
        rw [if_pos hsame]
        exact iff_of_true (RespectsHierarchy.refl g _) fun _ hne => absurd hself hne
      · have hsame : member.isSamePlayer player = false := beq_eq_false_iff_ne.mpr hself
        rw [hsame, if_neg Bool.false_ne_true, respectsHierarchy_changeRank hmem]
        exact ⟨fun h _ _ => h, fun h => h hright hself⟩
    · rw [if_pos (Bool.eq_false_iff.mpr hright)]
      exact iff_of_true (RespectsHierarchy.refl g _) fun hright' => absurd hright' hright

/-- A request respects the hierarchy exactly when it is harmless. Ranks are bytes. -/
theorem respects_iff (g : Guild) (player : Nat) (memberMe : Member)
    (hme : g.getMember player = some memberMe)
    (hranks : ∀ m ∈ g.roster.members, m.rankId < 2 ^ 8) (request : MemberRequest) :
    (∃ g', g.ask player request = some g' ∧ g.RespectsHierarchy memberMe.rankId g') ↔
      request.Harmless g player memberMe.rankId := by
  cases request with
  | removeMember guid => exact respects_handleRemoveMember hme guid
  | updateMemberRank guid demote =>
    cases demote with
    | false => exact respects_promote hme hranks guid
    | true => exact respects_demote hme guid
  | setMemberRank targetGuid rank =>
    exact respects_handleSetMemberRank memberMe.rankId targetGuid rank

/-- An officer removes an initiate. -/
theorem respects_removal :
    ∃ g', aGuild.ask 2 (.removeMember 3) = some g' ∧ aGuild.RespectsHierarchy 1 g' := by
  refine (respects_iff aGuild 2 ⟨2, "Bob", 1⟩ (by decide) (by decide)
    (.removeMember 3)).mpr ?_
  intro heq
  exact absurd heq (by decide)

/-- An officer makes an initiate a guild master. -/
theorem officer_makes_master :
    aGuild.getMember 2 = some ⟨2, "Bob", 1⟩ ∧ aGuild.isLeader 2 = false ∧
      ∀ g', aGuild.ask 2 (.setMemberRank 3 0) = some g' → ¬ aGuild.RespectsHierarchy 1 g' := by
  refine ⟨by decide, by decide, ?_⟩
  intro g' hask h
  have hgiven := h.given ⟨3, "Cyd", 0⟩ (by cases hask; decide) (by decide)
  exact absurd hgiven.1 (by decide)

end Guild

end Cataclysm.Guilds
