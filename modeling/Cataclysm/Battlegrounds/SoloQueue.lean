import Cataclysm.Battlegrounds.QueueIntegrity

/-!
# The solo arena queue

Players who look for a rated three against three match on their own wait in three lists, one
for each talent category. An update makes teams of a healer, a ranged and a melee player, takes
them out of the lists and hands them to the battleground queue as one group.

## Implementation notes

The entries of the lists are shared with `allPlayersInQueue`, which is therefore only a set of
guids here. The requirements of `CheckRequirements` that do not look at the queue, and whether
the arena template has a bracket, come with the request. `holdsQueueId` says who has the queue
id of the solo queue in one of his slots. `RemovePlayer` does not touch the slots. Whoever leaves
by himself loses the queue id when it returned true (`leaveQueue`); on logout it is called alone.
-/

namespace Cataclysm.Battlegrounds

/-- `SoloQueueTalentCategory` without the unknown one. -/
inductive TalentCategory
  | range
  | healer
  | melee
  deriving DecidableEq

/-- What `AddPlayer` reads of a player; no category stands for `TALENT_CAT_UNKNOWN`. -/
structure SoloPlayer where
  guid : Nat
  mmr : Nat
  arenaTeamId : Option Nat
  category : Option TalentCategory
  meetsRequirements : Bool
  now : Nat
  deriving DecidableEq

/-- The solo queue with its lists. -/
structure SoloQueue where
  queued : TalentCategory → List SoloQueueInfo
  allPlayersInQueue : OrderedMap Nat Unit
  lastUpdateTime : Nat
  holdsQueueId : Nat → Bool
  bgQueue : BattlegroundQueue

/-- A team that an update formed. -/
structure SoloTeam where
  healer : SoloQueueInfo
  range : SoloQueueInfo
  melee : SoloQueueInfo
  deriving DecidableEq

def SoloTeam.guids (t : SoloTeam) : List Nat :=
  [t.healer.playerGuid, t.range.playerGuid, t.melee.playerGuid]

/-- What `Update` reads from the server; the bracket is missing when the template or its bracket
entry is not found. -/
structure SoloUpdateArgs where
  now : Nat
  maxRatingDifference : Nat
  bracket : Option Bracket
  urand : Nat → Nat

namespace SoloQueue

def empty : SoloQueue :=
  ⟨fun _ => [], OrderedMap.empty, 0, fun _ => false, BattlegroundQueue.empty⟩

/-- The player stands in some list. -/
def isPlayerInSoloQueue (s : SoloQueue) (guid : Nat) : Bool :=
  s.allPlayersInQueue.contains guid || s.holdsQueueId guid

def checkRequirements (s : SoloQueue) (p : SoloPlayer) (isTesting : Bool) : Bool :=
  isTesting || p.meetsRequirements && !s.isPlayerInSoloQueue p.guid

/-- `emplace` of a multimap: behind the entries with the same rating. -/
def emplace (info : SoloQueueInfo) (list : List SoloQueueInfo) : List SoloQueueInfo :=
  list.takeWhile (fun other => other.arenaMatchmakerRating ≤ info.arenaMatchmakerRating) ++
    info :: list.dropWhile (fun other => other.arenaMatchmakerRating ≤ info.arenaMatchmakerRating)

/-- A player joins the list of his role. -/
def addPlayer (s : SoloQueue) (p : SoloPlayer) (isTesting : Bool) : SoloQueue :=
  if s.checkRequirements p isTesting then
    match p.arenaTeamId with
    | none => s
    | some teamId =>
      let info : SoloQueueInfo := ⟨p.guid, p.mmr, teamId, 0, 0, p.now⟩
      let s := { s with holdsQueueId := Function.update s.holdsQueueId p.guid true }
      match p.category with
      | none => s
      | some c =>
        { s with
          queued := Function.update s.queued c (emplace info (s.queued c))
          allPlayersInQueue := s.allPlayersInQueue.insert p.guid () }
  else s

/-- The first entry of a player leaves a list, and the player the set of all. -/
def dropFrom (s : SoloQueue) (c : TalentCategory) (guid : Nat) : SoloQueue :=
  { s with
    queued := Function.update s.queued c ((s.queued c).eraseP fun info => info.playerGuid == guid)
    allPlayersInQueue := s.allPlayersInQueue.erase guid }

/-- A player leaves the lists. -/
def removePlayer (s : SoloQueue) (guid : Nat) : SoloQueue × Bool :=
  match [TalentCategory.range, .healer, .melee].find? fun c =>
      (s.queued c).any fun info => info.playerGuid == guid with
  | some c => (s.dropFrom c guid, true)
  | none => ({ s with allPlayersInQueue := s.allPlayersInQueue.erase guid }, false)

/-- `Player::RemoveBattlegroundQueueId`. -/
def removeBattlegroundQueueId (s : SoloQueue) (guid : Nat) : SoloQueue :=
  { s with holdsQueueId := Function.update s.holdsQueueId guid false }

/-- `RemovePlayer` when the player asks for it. -/
def leaveQueue (s : SoloQueue) (guid : Nat) : SoloQueue :=
  match s.removePlayer guid with
  | (s, true) => s.removeBattlegroundQueueId guid
  | (s, false) => s

/-! ### The update -/

/-- `IncreasePlayerMMrRange`, when it is time for it. -/
def increasePlayerMMrRange (now : Nat) (info : SoloQueueInfo) : SoloQueueInfo :=
  if 19 < info.ratingRangeIncreaseCounter then info
  else if 45 * 1000 ≤ getMSTimeDiff info.lastMmrUpdate now then
    { info with
      ratingRange :=
        if 0 < info.ratingRangeIncreaseCounter then info.ratingRange + 100 else info.ratingRange
      ratingRangeIncreaseCounter := info.ratingRangeIncreaseCounter + 1
      lastMmrUpdate := now }
  else info

/-- Who waits long is matched with more players. -/
def increaseRanges (s : SoloQueue) (now : Nat) : SoloQueue :=
  { s with
    queued := fun c => (s.queued c).map fun info =>
      if s.allPlayersInQueue.contains info.playerGuid then increasePlayerMMrRange now info
      else info }

/-- The other player's rating is in the range of this one. -/
def isInMmrRange (args : SoloUpdateArgs) (info other : SoloQueueInfo) : Bool :=
  let completeRange := uint32 (args.maxRatingDifference + info.ratingRange)
  let minMMR := (max 0 (int32 (info.arenaMatchmakerRating - completeRange))).toNat
  let maxMMR := uint32 (min (int32 (info.arenaMatchmakerRating + completeRange)) 4000)
  minMMR ≤ other.arenaMatchmakerRating && other.arenaMatchmakerRating ≤ maxMMR

/-- The first player of a kind who fits to a healer. -/
def findPartner (s : SoloQueue) (args : SoloUpdateArgs) (healer : SoloQueueInfo)
    (c : TalentCategory) : Option SoloQueueInfo :=
  (s.queued c).find? fun info => isInMmrRange args info healer || isInMmrRange args healer info

/-- One round of the loop over the healers. -/
def formTeam (args : SoloUpdateArgs) (s : SoloQueue) (healer : SoloQueueInfo) :
    SoloQueue × Option SoloTeam :=
  match s.findPartner args healer .range, s.findPartner args healer .melee, args.bracket with
  | some range, some melee, some bracket =>
    let playerList := [healer, range, melee]
    let s := { s with
      bgQueue := s.bgQueue.addSoloQueueGroup playerList bracket .alliance
        (args.urand healer.playerGuid) args.now }
    let s := playerList.foldl (fun s info =>
      if info.playerGuid = healer.playerGuid then s else (s.removePlayer info.playerGuid).1) s
    (s.dropFrom .healer healer.playerGuid, some ⟨healer, range, melee⟩)
  | _, _, _ => (s, none)

/-- One team after the other is formed. -/
def formTeams (args : SoloUpdateArgs) : List SoloQueueInfo → SoloQueue →
    SoloQueue × List SoloTeam
  | [], s => (s, [])
  | healer :: rest, s =>
    let (s, team) := formTeam args s healer
    let (s, teams) := formTeams args rest s
    (s, team.toList ++ teams)

/-- `Update`, with the teams it formed. -/
def update (s : SoloQueue) (args : SoloUpdateArgs) : SoloQueue × List SoloTeam :=
  if getMSTimeDiff s.lastUpdateTime args.now < 1000 then (s, [])
  else
    let s := { s with lastUpdateTime := args.now }.increaseRanges args.now
    formTeams args (s.queued .healer) s

/-! ### What must hold -/

/-- The player has an entry in the list. -/
def InList (s : SoloQueue) (c : TalentCategory) (guid : Nat) : Prop :=
  ∃ info ∈ s.queued c, info.playerGuid = guid

/-- The lists agree with the set of all players, and whoever has the queue id waits somewhere. -/
structure Consistent (s : SoloQueue) : Prop where
  all_iff : ∀ guid, s.allPlayersInQueue.contains guid = true ↔ ∃! c, s.InList c guid
  once : ∀ c, ((s.queued c).map SoloQueueInfo.playerGuid).Nodup
  disjoint : ∀ guid c c', s.InList c guid → s.InList c' guid → c = c'
  holder : ∀ guid, s.holdsQueueId guid = true → (∃ c, s.InList c guid) ∨
    ∃ g group, s.bgQueue.groups.find? g = some group ∧ group.players.contains guid = true

/-- A team of a healer, a ranged and a melee player, three different players who waited before
the update and are out of all lists, but in a group, after it. -/
structure FormedTeam (s s' : SoloQueue) (t : SoloTeam) : Prop where
  healer : s.InList .healer t.healer.playerGuid
  range : s.InList .range t.range.playerGuid
  melee : s.InList .melee t.melee.playerGuid
  different : t.guids.Nodup
  gone : ∀ guid ∈ t.guids, s'.allPlayersInQueue.contains guid = false ∧ ∀ c, ¬ s'.InList c guid
  grouped : ∀ guid ∈ t.guids, s'.bgQueue.queuedPlayers.contains guid = true

/-- The three lists and the set of all players. -/
structure Lists (s : SoloQueue) : Prop where
  all_iff : ∀ guid, s.allPlayersInQueue.contains guid = true ↔ ∃ c, s.InList c guid
  unique : ∀ guid c c', s.InList c guid → s.InList c' guid → c = c'
  once : ∀ c, ((s.queued c).map SoloQueueInfo.playerGuid).Nodup

/-- What the requests preserve: whoever waits has the queue id, and players of the battleground
queue are in no list. -/
structure Invariant (s : SoloQueue) : Prop extends Lists s where
  bgQueue : s.bgQueue.Invariant
  listed_holds : ∀ guid c, s.InList c guid → s.holdsQueueId guid = true
  grouped_holds : ∀ guid, s.bgQueue.queuedPlayers.contains guid = true → s.holdsQueueId guid = true
  grouped_unlisted : ∀ guid c, s.bgQueue.queuedPlayers.contains guid = true → ¬ s.InList c guid
  holder : ∀ guid, s.holdsQueueId guid = true → (∃ c, s.InList c guid) ∨
    s.bgQueue.queuedPlayers.contains guid = true

variable {s : SoloQueue}

theorem Invariant.consistent (h : s.Invariant) : s.Consistent where
  all_iff := by
    intro guid
    rw [h.all_iff]
    constructor
    · rintro ⟨c, hc⟩
      exact ⟨c, hc, fun c' hc' => h.unique guid c' c hc' hc⟩
    · exact ExistsUnique.exists
  once := h.once
  disjoint := h.unique
  holder := by
    intro guid hholds
    refine (h.holder guid hholds).imp_right ?_
    intro hcontains
    obtain ⟨g, hg⟩ := Option.isSome_iff_exists.mp hcontains
    obtain ⟨group, hfind, hplayer⟩ := (h.bgQueue.queued_iff guid g).mp hg
    exact ⟨g, group, hfind, hplayer⟩

theorem invariant_empty : empty.Invariant where
  all_iff := by
    intro guid
    simp [empty, InList, OrderedMap.contains]
  unique := by
    rintro guid c c' ⟨info, hinfo, -⟩
    cases hinfo
  once := fun _ => List.nodup_nil
  bgQueue := BattlegroundQueue.invariant_empty
  listed_holds := by
    rintro guid c ⟨info, hinfo, -⟩
    cases hinfo
  grouped_holds := by
    intro guid hcontains
    cases hcontains
  grouped_unlisted := by
    rintro guid c hcontains
    cases hcontains
  holder := by
    intro guid hholds
    cases hholds

/-! ### Leaving -/

variable {guid : Nat} {c : TalentCategory}

theorem mem_eraseP_guid {list : List SoloQueueInfo} {info : SoloQueueInfo}
    (hnodup : (list.map SoloQueueInfo.playerGuid).Nodup) :
    info ∈ list.eraseP (fun other => other.playerGuid == guid) ↔
      info ∈ list ∧ info.playerGuid ≠ guid := by
  induction list with
  | nil => simp
  | cons first rest ih =>
    obtain ⟨hfirst, hrest⟩ := List.nodup_cons.mp hnodup
    by_cases heq : first.playerGuid = guid
    · have herase : (first :: rest).eraseP (fun other => other.playerGuid == guid) = rest :=
        List.eraseP_cons_of_pos (by simpa using heq)
      rw [herase, List.mem_cons]
      constructor
      · intro hin
        refine ⟨Or.inr hin, ?_⟩
        intro hguid
        exact hfirst (heq.trans hguid.symm ▸ List.mem_map_of_mem hin)
      · rintro ⟨rfl | hin, hne⟩
        · exact absurd heq hne
        · exact hin
    · rw [List.eraseP_cons_of_neg (by simpa using heq), List.mem_cons, List.mem_cons, ih hrest]
      constructor
      · rintro (rfl | ⟨hin, hne⟩)
        · exact ⟨Or.inl rfl, heq⟩
        · exact ⟨Or.inr hin, hne⟩
      · rintro ⟨rfl | hin, hne⟩
        · exact Or.inl rfl
        · exact Or.inr ⟨hin, hne⟩

/-- The player left the lists and the set, and everything else stayed. -/
structure Removes (s s' : SoloQueue) (guid : Nat) : Prop where
  queued : ∀ c info, info ∈ s'.queued c ↔ info ∈ s.queued c ∧ info.playerGuid ≠ guid
  all : ∀ guid', s'.allPlayersInQueue.contains guid' =
    (guid' ≠ guid && s.allPlayersInQueue.contains guid')
  sublist : ∀ c, (s'.queued c).Sublist (s.queued c)
  holdsQueueId : s'.holdsQueueId = s.holdsQueueId
  bgQueue : s'.bgQueue = s.bgQueue

theorem Removes.inList_iff {s' : SoloQueue} (h : Removes s s' guid) (c : TalentCategory)
    (guid' : Nat) : s'.InList c guid' ↔ s.InList c guid' ∧ guid' ≠ guid := by
  constructor
  · rintro ⟨info, hinfo, rfl⟩
    obtain ⟨hin, hne⟩ := (h.queued c info).mp hinfo
    exact ⟨⟨info, hin, rfl⟩, hne⟩
  · rintro ⟨⟨info, hinfo, rfl⟩, hne⟩
    exact ⟨info, (h.queued c info).mpr ⟨hinfo, hne⟩, rfl⟩

theorem Removes.lists {s' : SoloQueue} (hrem : Removes s s' guid) (h : s.Lists) :
    s'.Lists where
  all_iff := by
    intro guid'
    rw [hrem.all, Bool.and_eq_true, decide_eq_true_eq, h.all_iff]
    constructor
    · rintro ⟨hne, c, hc⟩
      exact ⟨c, (hrem.inList_iff c guid').mpr ⟨hc, hne⟩⟩
    · rintro ⟨c, hc⟩
      obtain ⟨hc, hne⟩ := (hrem.inList_iff c guid').mp hc
      exact ⟨hne, c, hc⟩
  unique := by
    intro guid' c c' hc hc'
    exact h.unique guid' c c' ((hrem.inList_iff c guid').mp hc).1
      ((hrem.inList_iff c' guid').mp hc').1
  once := fun c => (h.once c).sublist ((hrem.sublist c).map _)

theorem removes_dropFrom (h : s.Lists) (hc : s.InList c guid) :
    Removes s (s.dropFrom c guid) guid where
  queued := by
    intro c' info
    simp only [dropFrom]
    by_cases heq : c' = c
    · subst heq
      rw [Function.update_self]
      exact mem_eraseP_guid (h.once c')
    · rw [Function.update_of_ne heq]
      constructor
      · intro hinfo
        refine ⟨hinfo, ?_⟩
        intro hguid
        exact heq (h.unique guid c' c ⟨info, hinfo, hguid⟩ hc)
      · exact fun hand => hand.1
  all := fun guid' => OrderedMap.contains_erase _ _ _
  sublist := by
    intro c'
    simp only [dropFrom]
    by_cases heq : c' = c
    · subst heq
      rw [Function.update_self]
      exact List.eraseP_sublist
    · rw [Function.update_of_ne heq]
  holdsQueueId := rfl
  bgQueue := rfl

theorem removePlayer_of_inList (h : s.Lists) (hc : s.InList c guid) :
    s.removePlayer guid = (s.dropFrom c guid, true) := by
  obtain ⟨info, hinfo, hguid⟩ := hc
  have hany : ((s.queued c).any fun info => info.playerGuid == guid) = true :=
    List.any_eq_true.mpr ⟨info, hinfo, beq_iff_eq.mpr hguid⟩
  have hfound : ([TalentCategory.range, .healer, .melee].find? fun c =>
      (s.queued c).any fun info => info.playerGuid == guid).isSome := by
    rw [List.find?_isSome]
    refine ⟨c, ?_, hany⟩
    cases c <;> simp
  obtain ⟨c', hc'⟩ := Option.isSome_iff_exists.mp hfound
  have hany' : ((s.queued c').any fun info => info.playerGuid == guid) = true := by
    simpa using List.find?_some hc'
  obtain ⟨info', hinfo', hguid'⟩ := List.any_eq_true.mp hany'
  have heq := h.unique guid c' c ⟨info', hinfo', beq_iff_eq.mp hguid'⟩ ⟨info, hinfo, hguid⟩
  rw [removePlayer, hc', heq]

theorem removePlayer_of_not_inList (hnot : ∀ c, ¬ s.InList c guid) :
    s.removePlayer guid =
      ({ s with allPlayersInQueue := s.allPlayersInQueue.erase guid }, false) := by
  have hnone : ([TalentCategory.range, .healer, .melee].find? fun c =>
      (s.queued c).any fun info => info.playerGuid == guid) = none := by
    rw [List.find?_eq_none]
    intro c _ hany
    obtain ⟨info, hinfo, hguid⟩ := List.any_eq_true.mp hany
    exact hnot c ⟨info, hinfo, beq_iff_eq.mp hguid⟩
  rw [removePlayer, hnone]

theorem removePlayer_eq_self (h : s.Lists) (hnot : ∀ c, ¬ s.InList c guid) :
    s.removePlayer guid = (s, false) := by
  have hall : s.allPlayersInQueue.find? guid = none := by
    rw [← Option.not_isSome_iff_eq_none]
    intro hsome
    obtain ⟨c, hc⟩ := (h.all_iff guid).mp hsome
    exact hnot c hc
  rw [removePlayer_of_not_inList hnot, OrderedMap.erase_of_find?_eq_none hall]

theorem Invariant.leaveQueue (h : s.Invariant) (guid : Nat) : (s.leaveQueue guid).Invariant := by
  by_cases hin : ∃ c, s.InList c guid
  · obtain ⟨c, hc⟩ := hin
    have hrem := removes_dropFrom h.toLists hc
    have hlists := hrem.lists h.toLists
    rw [SoloQueue.leaveQueue, removePlayer_of_inList h.toLists hc]
    dsimp only [removeBattlegroundQueueId]
    refine ⟨⟨hlists.all_iff, hlists.unique, hlists.once⟩, h.bgQueue, ?_, ?_, ?_, ?_⟩
    · intro guid' c' hc'
      obtain ⟨hc', hne⟩ := (hrem.inList_iff c' guid').mp hc'
      dsimp only
      rw [Function.update_of_ne hne]
      exact h.listed_holds guid' c' hc'
    · intro guid' hcontains
      have hne : guid' ≠ guid := by
        rintro rfl
        exact h.grouped_unlisted guid' c hcontains hc
      dsimp only
      rw [Function.update_of_ne hne]
      exact h.grouped_holds guid' hcontains
    · intro guid' c' hcontains hc'
      exact h.grouped_unlisted guid' c' hcontains ((hrem.inList_iff c' guid').mp hc').1
    · intro guid' hholds
      dsimp only at hholds
      by_cases heq : guid' = guid
      · rw [heq, Function.update_self] at hholds
        cases hholds
      · rw [Function.update_of_ne heq] at hholds
        refine (h.holder guid' hholds).imp_left ?_
        rintro ⟨c', hc'⟩
        exact ⟨c', (hrem.inList_iff c' guid').mpr ⟨hc', heq⟩⟩
  · rw [SoloQueue.leaveQueue, removePlayer_eq_self h.toLists (not_exists.mp hin)]
    exact h

/-- `RemovePlayer` alone takes nobody out of a list. -/
theorem Invariant.removePlayer (h : s.Invariant) (hnone : (s.removePlayer guid).2 = false) :
    (s.removePlayer guid).1.Invariant := by
  have hin : ∀ c, ¬ s.InList c guid := by
    intro c hc
    rw [removePlayer_of_inList h.toLists hc] at hnone
    cases hnone
  rw [removePlayer_eq_self h.toLists hin]
  exact h

/-- Whoever was taken out of a list has the queue id and waits nowhere. -/
theorem Invariant.not_consistent_removePlayer (h : s.Invariant)
    (hremoved : (s.removePlayer guid).2 = true) : ¬ (s.removePlayer guid).1.Consistent := by
  intro hconsistent
  have hin : ∃ c, s.InList c guid := by
    by_contra hnot
    rw [removePlayer_of_not_inList (not_exists.mp hnot)] at hremoved
    cases hremoved
  obtain ⟨c, hc⟩ := hin
  have hrem := removes_dropFrom h.toLists hc
  rw [removePlayer_of_inList h.toLists hc] at hconsistent
  obtain ⟨c', hc'⟩ | ⟨g, group, hfind, hplayer⟩ :=
    hconsistent.holder guid (h.listed_holds guid c hc)
  · exact ((hrem.inList_iff c' guid).mp hc').2 rfl
  · rw [hrem.bgQueue] at hfind
    have hqueued := (h.bgQueue.queued_iff guid g).mpr ⟨group, hfind, hplayer⟩
    exact h.grouped_unlisted guid c (Option.isSome_iff_exists.mpr ⟨g, hqueued⟩) hc

/-! ### Joining -/

theorem emplace_perm (info : SoloQueueInfo) (list : List SoloQueueInfo) :
    (emplace info list).Perm (info :: list) := by
  rw [emplace]
  refine List.perm_middle.trans (List.Perm.cons info ?_)
  rw [List.takeWhile_append_dropWhile]

/-- The call would take a queue slot for a player of unknown category. -/
def unknownJoin (s : SoloQueue) (p : SoloPlayer) (isTesting : Bool) : Bool :=
  s.checkRequirements p isTesting && p.arenaTeamId.isSome && p.category.isNone

/-- A player who is in no list enters one of them. -/
theorem Lists.emplace (h : s.Lists) (info : SoloQueueInfo)
    (hnew : ∀ c, ¬ s.InList c info.playerGuid) (s' : SoloQueue)
    (hqueued : s'.queued = Function.update s.queued c (emplace info (s.queued c)))
    (hall : s'.allPlayersInQueue = s.allPlayersInQueue.insert info.playerGuid ()) :
    s'.Lists ∧ ∀ c' guid, s'.InList c' guid ↔
      s.InList c' guid ∨ c' = c ∧ guid = info.playerGuid := by
  have hmem : ∀ c' info', info' ∈ s'.queued c' ↔
      info' ∈ s.queued c' ∨ c' = c ∧ info' = info := by
    intro c' info'
    rw [hqueued]
    by_cases heq : c' = c
    · subst heq
      rw [Function.update_self, (emplace_perm info _).mem_iff, List.mem_cons]
      constructor
      · rintro (rfl | hin)
        · exact Or.inr ⟨rfl, rfl⟩
        · exact Or.inl hin
      · rintro (hin | ⟨-, rfl⟩)
        · exact Or.inr hin
        · exact Or.inl rfl
    · rw [Function.update_of_ne heq]
      simp [heq]
  have hin : ∀ c' guid, s'.InList c' guid ↔
      s.InList c' guid ∨ c' = c ∧ guid = info.playerGuid := by
    intro c' guid
    constructor
    · rintro ⟨info', hinfo', rfl⟩
      obtain hold | ⟨rfl, rfl⟩ := (hmem c' info').mp hinfo'
      · exact Or.inl ⟨info', hold, rfl⟩
      · exact Or.inr ⟨rfl, rfl⟩
    · rintro (⟨info', hinfo', rfl⟩ | ⟨rfl, rfl⟩)
      · exact ⟨info', (hmem c' info').mpr (Or.inl hinfo'), rfl⟩
      · exact ⟨info, (hmem c' info).mpr (Or.inr ⟨rfl, rfl⟩), rfl⟩
  refine ⟨⟨?_, ?_, ?_⟩, hin⟩
  · intro guid
    rw [hall, OrderedMap.contains_insert, Bool.or_eq_true, decide_eq_true_eq, h.all_iff]
    constructor
    · rintro (rfl | ⟨c', hc'⟩)
      · exact ⟨c, (hin c _).mpr (Or.inr ⟨rfl, rfl⟩)⟩
      · exact ⟨c', (hin c' guid).mpr (Or.inl hc')⟩
    · rintro ⟨c', hc'⟩
      obtain hold | ⟨-, rfl⟩ := (hin c' guid).mp hc'
      · exact Or.inr ⟨c', hold⟩
      · exact Or.inl rfl
  · intro guid c₁ c₂ h₁ h₂
    obtain h₁ | ⟨rfl, rfl⟩ := (hin c₁ guid).mp h₁
    · obtain h₂ | ⟨rfl, rfl⟩ := (hin c₂ guid).mp h₂
      · exact h.unique guid c₁ c₂ h₁ h₂
      · exact absurd h₁ (hnew c₁)
    · obtain h₂ | ⟨rfl, -⟩ := (hin c₂ _).mp h₂
      · exact absurd h₂ (hnew c₂)
      · rfl
  · intro c'
    rw [hqueued]
    by_cases heq : c' = c
    · subst heq
      rw [Function.update_self, ((emplace_perm info _).map _).nodup_iff, List.map_cons]
      refine List.nodup_cons.mpr ⟨?_, h.once c'⟩
      intro hin'
      obtain ⟨info', hinfo', hguid⟩ := List.mem_map.mp hin'
      exact hnew c' ⟨info', hinfo', hguid⟩
    · rw [Function.update_of_ne heq]
      exact h.once c'

/-- A player of unknown category has the queue id and waits nowhere. -/
theorem Invariant.not_consistent_addPlayer (h : s.Invariant) {p : SoloPlayer}
    (hunknown : s.unknownJoin p false = true) : ¬ (s.addPlayer p false).Consistent := by
  intro hconsistent
  simp only [unknownJoin, Bool.and_eq_true, Option.isNone_iff_eq_none] at hunknown
  obtain ⟨⟨hcheck, hteam⟩, hcategory⟩ := hunknown
  obtain ⟨teamId, hteam⟩ := Option.isSome_iff_exists.mp hteam
  have hadded : s.addPlayer p false =
      { s with holdsQueueId := Function.update s.holdsQueueId p.guid true } := by
    rw [SoloQueue.addPlayer, if_pos hcheck, hteam, hcategory]
  have hfree := (Bool.and_eq_true_iff.mp hcheck).2
  rw [Bool.not_eq_true', isPlayerInSoloQueue, Bool.or_eq_false_iff] at hfree
  rw [hadded] at hconsistent
  obtain ⟨c, hc⟩ | ⟨g, group, hfind, hplayer⟩ :=
    hconsistent.holder p.guid (Function.update_self ..)
  · have hin := (h.all_iff p.guid).mpr ⟨c, hc⟩
    rw [hfree.1] at hin
    cases hin
  · have hqueued := (h.bgQueue.queued_iff p.guid g).mpr ⟨group, hfind, hplayer⟩
    have hholds := h.grouped_holds p.guid (Option.isSome_iff_exists.mpr ⟨g, hqueued⟩)
    rw [hfree.2] at hholds
    cases hholds

theorem Invariant.addPlayer (h : s.Invariant) {p : SoloPlayer}
    (hknown : s.unknownJoin p false = false) : (s.addPlayer p false).Invariant := by
  unfold SoloQueue.addPlayer
  split
  · next hcheck =>
      split
      · exact h
      · next teamId hteam =>
          cases hcategory : p.category with
          | none =>
            rw [unknownJoin, hcheck, hteam, hcategory] at hknown
            cases hknown
          | some c =>
            have hfree : s.isPlayerInSoloQueue p.guid = false := by
              rw [checkRequirements] at hcheck
              simp only [Bool.false_or, Bool.and_eq_true, Bool.not_eq_true'] at hcheck
              exact hcheck.2
            rw [isPlayerInSoloQueue, Bool.or_eq_false_iff] at hfree
            have hnew : ∀ c, ¬ s.InList c p.guid := by
              intro c' hc'
              have hin := (h.all_iff p.guid).mpr ⟨c', hc'⟩
              rw [hfree.1] at hin
              cases hin
            obtain ⟨hlists, hin⟩ := h.toLists.emplace ⟨p.guid, p.mmr, teamId, 0, 0, p.now⟩ hnew
              { s with
                queued := Function.update s.queued c
                  (SoloQueue.emplace ⟨p.guid, p.mmr, teamId, 0, 0, p.now⟩ (s.queued c))
                allPlayersInQueue := s.allPlayersInQueue.insert p.guid ()
                holdsQueueId := Function.update s.holdsQueueId p.guid true } rfl rfl
            refine ⟨hlists, h.bgQueue, ?_, ?_, ?_, ?_⟩
            · intro guid c' hc'
              dsimp only
              by_cases heq : guid = p.guid
              · rw [heq, Function.update_self]
              · rw [Function.update_of_ne heq]
                obtain hold | ⟨-, heq'⟩ := (hin c' guid).mp hc'
                · exact h.listed_holds guid c' hold
                · exact absurd heq' heq
            · intro guid hcontains
              dsimp only
              by_cases heq : guid = p.guid
              · rw [heq, Function.update_self]
              · rw [Function.update_of_ne heq]
                exact h.grouped_holds guid hcontains
            · intro guid c' hcontains hc'
              obtain hold | ⟨-, rfl⟩ := (hin c' guid).mp hc'
              · exact h.grouped_unlisted guid c' hcontains hold
              · have hholds := h.grouped_holds p.guid hcontains
                rw [hfree.2] at hholds
                cases hholds
            · intro guid hholds
              dsimp only at hholds
              by_cases heq : guid = p.guid
              · exact Or.inl ⟨c, (hin c guid).mpr (Or.inr ⟨rfl, heq⟩)⟩
              · rw [Function.update_of_ne heq] at hholds
                refine (h.holder guid hholds).imp_left ?_
                rintro ⟨c', hc'⟩
                exact ⟨c', (hin c' guid).mpr (Or.inl hc')⟩
  · exact h

/-! ### Forming teams -/

variable {healer : SoloQueueInfo}

theorem findPartner_mem {args : SoloUpdateArgs} {info : SoloQueueInfo}
    (h : s.findPartner args healer c = some info) : info ∈ s.queued c :=
  List.mem_of_find?_eq_some h

/-- The players of a team leave the lists. -/
theorem removes_team (h : s.Lists) {range melee : SoloQueueInfo}
    (hhealer : healer ∈ s.queued .healer) (hrange : range ∈ s.queued .range)
    (hmelee : melee ∈ s.queued .melee) :
    (SoloTeam.mk healer range melee).guids.Nodup ∧
      ∃ s₁ s₂, Removes s s₁ range.playerGuid ∧ Removes s₁ s₂ melee.playerGuid ∧
        Removes s₂ (([healer, range, melee].foldl (fun s info =>
          if info.playerGuid = healer.playerGuid then s
          else (s.removePlayer info.playerGuid).1) s).dropFrom .healer healer.playerGuid)
          healer.playerGuid := by
  have hhr : range.playerGuid ≠ healer.playerGuid := by
    intro heq
    cases h.unique _ _ _ ⟨range, hrange, heq⟩ ⟨healer, hhealer, rfl⟩
  have hhm : melee.playerGuid ≠ healer.playerGuid := by
    intro heq
    cases h.unique _ _ _ ⟨melee, hmelee, heq⟩ ⟨healer, hhealer, rfl⟩
  have hrm : melee.playerGuid ≠ range.playerGuid := by
    intro heq
    cases h.unique _ _ _ ⟨melee, hmelee, heq⟩ ⟨range, hrange, rfl⟩
  refine ⟨?_, s.dropFrom .range range.playerGuid,
    (s.dropFrom .range range.playerGuid).dropFrom .melee melee.playerGuid, ?_⟩
  · simp [SoloTeam.guids, hhr.symm, hhm.symm, hrm.symm]
  · have hrem₁ := removes_dropFrom h (c := .range) ⟨range, hrange, rfl⟩
    have hlists₁ := hrem₁.lists h
    have hmelee₁ : (s.dropFrom .range range.playerGuid).InList .melee melee.playerGuid :=
      (hrem₁.inList_iff .melee _).mpr ⟨⟨melee, hmelee, rfl⟩, hrm⟩
    have hrem₂ := removes_dropFrom hlists₁ hmelee₁
    have hhealer₂ : ((s.dropFrom .range range.playerGuid).dropFrom .melee
        melee.playerGuid).InList .healer healer.playerGuid :=
      (hrem₂.inList_iff .healer _).mpr
        ⟨(hrem₁.inList_iff .healer _).mpr ⟨⟨healer, hhealer, rfl⟩, hhr.symm⟩, hhm.symm⟩
    refine ⟨hrem₁, hrem₂, ?_⟩
    simp only [List.foldl_cons, List.foldl_nil, if_neg hhr, if_neg hhm, if_true]
    rw [removePlayer_of_inList h ⟨range, hrange, rfl⟩, removePlayer_of_inList hlists₁ hmelee₁]
    exact removes_dropFrom (hrem₂.lists hlists₁) hhealer₂

theorem contains_addSoloQueueGroup (q : BattlegroundQueue) (playerList : List SoloQueueInfo)
    (bracket : Bracket) (team : Team) (urand now guid : Nat) :
    (q.addSoloQueueGroup playerList bracket team urand now).queuedPlayers.contains guid = true ↔
      q.queuedPlayers.contains guid = true ∨ guid ∈ playerList.map SoloQueueInfo.playerGuid := by
  simp only [BattlegroundQueue.addSoloQueueGroup, BattlegroundQueue.enqueue, OrderedMap.contains]
  rw [OrderedMap.find?_foldl_insert]
  split
  · next hin => simp [hin]
  · next hout => simp [hout]

/-- The effect of rounds that form teams. -/
structure TeamStep (s s' : SoloQueue) (teams : List SoloTeam) : Prop where
  invariant : s'.Invariant
  queued : ∀ c info, info ∈ s'.queued c ↔
    info ∈ s.queued c ∧ ∀ t ∈ teams, info.playerGuid ∉ t.guids
  grouped : ∀ guid, s'.bgQueue.queuedPlayers.contains guid = true ↔
    s.bgQueue.queuedPlayers.contains guid = true ∨ ∃ t ∈ teams, guid ∈ t.guids
  waited : ∀ t ∈ teams, t.healer ∈ s.queued .healer ∧ t.range ∈ s.queued .range ∧
    t.melee ∈ s.queued .melee ∧ t.guids.Nodup

theorem TeamStep.refl (h : s.Invariant) : TeamStep s s [] where
  invariant := h
  queued := by
    intro c info
    simp
  grouped := by
    intro guid
    simp
  waited := by
    intro t ht
    cases ht

theorem TeamStep.trans {s₁ s₂ : SoloQueue} {teams₁ teams₂ : List SoloTeam}
    (h₁ : TeamStep s s₁ teams₁) (h₂ : TeamStep s₁ s₂ teams₂) :
    TeamStep s s₂ (teams₁ ++ teams₂) where
  invariant := h₂.invariant
  queued := by
    intro c info
    rw [h₂.queued, h₁.queued, List.forall_mem_append, and_assoc]
  grouped := by
    intro guid
    rw [h₂.grouped, h₁.grouped, or_assoc]
    refine or_congr_right ?_
    simp only [List.mem_append, or_and_right, exists_or]
  waited := by
    intro t ht
    obtain hin | hin := List.mem_append.mp ht
    · exact h₁.waited t hin
    · obtain ⟨hhealer, hrange, hmelee, hnodup⟩ := h₂.waited t hin
      exact ⟨((h₁.queued _ _).mp hhealer).1, ((h₁.queued _ _).mp hrange).1,
        ((h₁.queued _ _).mp hmelee).1, hnodup⟩

theorem Invariant.formTeam (h : s.Invariant) (args : SoloUpdateArgs)
    (hhealer : healer ∈ s.queued .healer) :
    TeamStep s (formTeam args s healer).1 (formTeam args s healer).2.toList ∧
      ∀ t ∈ (SoloQueue.formTeam args s healer).2, t.healer = healer := by
  unfold SoloQueue.formTeam
  split
  · next range melee bracket hrange hmelee _ =>
      have hrange := findPartner_mem hrange
      have hmelee := findPartner_mem hmelee
      dsimp only
      have hlisted : ∀ info ∈ [healer, range, melee], ∃ c, s.InList c info.playerGuid := by
        intro info hinfo
        simp only [List.mem_cons, List.not_mem_nil, or_false] at hinfo
        obtain rfl | rfl | rfl := hinfo
        · exact ⟨.healer, info, hhealer, rfl⟩
        · exact ⟨.range, info, hrange, rfl⟩
        · exact ⟨.melee, info, hmelee, rfl⟩
      have hungrouped : ∀ info ∈ [healer, range, melee],
          s.bgQueue.queuedPlayers.find? info.playerGuid = none := by
        intro info hinfo
        obtain ⟨c, hc⟩ := hlisted info hinfo
        rw [← Option.not_isSome_iff_eq_none]
        exact fun hsome => h.grouped_unlisted _ c hsome hc
      have hbg := h.bgQueue.addSoloQueueGroup bracket .alliance (args.urand healer.playerGuid)
        args.now hungrouped
      have hgrouped := contains_addSoloQueueGroup s.bgQueue [healer, range, melee] bracket
        .alliance (args.urand healer.playerGuid) args.now
      generalize s.bgQueue.addSoloQueueGroup [healer, range, melee] bracket .alliance
        (args.urand healer.playerGuid) args.now = bgQueue' at hbg hgrouped
      have hlists : { s with bgQueue := bgQueue' }.Lists := ⟨h.all_iff, h.unique, h.once⟩
      obtain ⟨hnodup, s₁, s₂, hrem₁, hrem₂, hrem₃⟩ := removes_team hlists hhealer hrange hmelee
      generalize ([healer, range, melee].foldl (fun (s : SoloQueue) (info : SoloQueueInfo) =>
        if info.playerGuid = healer.playerGuid then s
        else (s.removePlayer info.playerGuid).1) { s with bgQueue := bgQueue' }).dropFrom .healer
          healer.playerGuid = s₃ at hrem₃ ⊢
      have hqueued : ∀ c info, info ∈ s₃.queued c ↔ info ∈ s.queued c ∧
          info.playerGuid ∉ (SoloTeam.mk healer range melee).guids := by
        intro c info
        rw [hrem₃.queued, hrem₂.queued, hrem₁.queued]
        simp only [SoloTeam.guids, List.mem_cons, List.not_mem_nil, or_false, not_or]
        tauto
      have hinList : ∀ c guid, s₃.InList c guid ↔ s.InList c guid ∧
          guid ∉ (SoloTeam.mk healer range melee).guids := by
        intro c guid
        constructor
        · rintro ⟨info, hinfo, rfl⟩
          obtain ⟨hin, hout⟩ := (hqueued c info).mp hinfo
          exact ⟨⟨info, hin, rfl⟩, hout⟩
        · rintro ⟨⟨info, hinfo, rfl⟩, hout⟩
          exact ⟨info, (hqueued c info).mpr ⟨hinfo, hout⟩, rfl⟩
      have hbgQueue : s₃.bgQueue = bgQueue' := by
        rw [hrem₃.bgQueue, hrem₂.bgQueue, hrem₁.bgQueue]
      have hholds : s₃.holdsQueueId = s.holdsQueueId := by
        rw [hrem₃.holdsQueueId, hrem₂.holdsQueueId, hrem₁.holdsQueueId]
      have hlists₃ := hrem₃.lists (hrem₂.lists (hrem₁.lists hlists))
      constructor
      · refine ⟨⟨hlists₃, hbgQueue ▸ hbg, ?_, ?_, ?_, ?_⟩, ?_, ?_, ?_⟩
        · intro guid c hc
          rw [hholds]
          exact h.listed_holds guid c ((hinList c guid).mp hc).1
        · intro guid hcontains
          rw [hholds]
          rw [hbgQueue, hgrouped] at hcontains
          obtain hold | hteam := hcontains
          · exact h.grouped_holds guid hold
          · obtain ⟨info, hinfo, rfl⟩ := List.mem_map.mp hteam
            obtain ⟨c, hc⟩ := hlisted info hinfo
            exact h.listed_holds _ c hc
        · intro guid c hcontains hc
          rw [hbgQueue, hgrouped] at hcontains
          obtain ⟨hc, hout⟩ := (hinList c guid).mp hc
          obtain hold | hteam := hcontains
          · exact h.grouped_unlisted guid c hold hc
          · exact hout hteam
        · intro guid hguid
          rw [hholds] at hguid
          rw [hbgQueue, hgrouped]
          obtain ⟨c, hc⟩ | hold := h.holder guid hguid
          · by_cases hteam : guid ∈ (SoloTeam.mk healer range melee).guids
            · exact Or.inr (Or.inr hteam)
            · exact Or.inl ⟨c, (hinList c guid).mpr ⟨hc, hteam⟩⟩
          · exact Or.inr (Or.inl hold)
        · intro c info
          rw [hqueued]
          simp
        · intro guid
          rw [hbgQueue, hgrouped]
          simp [SoloTeam.guids]
        · intro t ht
          rw [Option.toList_some, List.mem_singleton] at ht
          subst ht
          exact ⟨hhealer, hrange, hmelee, hnodup⟩
      · intro t ht
        cases ht
        rfl
  · refine ⟨TeamStep.refl h, ?_⟩
    intro t ht
    cases ht

/-- The loop over the healers. -/
theorem Invariant.formTeams (h : s.Invariant) (args : SoloUpdateArgs)
    {healers : List SoloQueueInfo} (hhealers : ∀ healer ∈ healers, healer ∈ s.queued .healer)
    (hnodup : (healers.map SoloQueueInfo.playerGuid).Nodup) :
    TeamStep s (SoloQueue.formTeams args healers s).1 (SoloQueue.formTeams args healers s).2 := by
  induction healers generalizing s with
  | nil => exact TeamStep.refl h
  | cons healer rest ih =>
    obtain ⟨hout, hrest⟩ := List.nodup_cons.mp hnodup
    have hhealer := hhealers healer List.mem_cons_self
    obtain ⟨hstep, hteam⟩ := h.formTeam args hhealer
    have hstay : ∀ other ∈ rest, other ∈ (SoloQueue.formTeam args s healer).1.queued .healer := by
      intro other hother
      have hin := hhealers other (List.mem_cons_of_mem healer hother)
      refine (hstep.queued .healer other).mpr ⟨hin, ?_⟩
      intro t ht hguid
      obtain ⟨-, hrange, hmelee, -⟩ := hstep.waited t ht
      simp only [SoloTeam.guids, List.mem_cons, List.not_mem_nil, or_false] at hguid
      obtain heq | heq | heq := hguid
      · rw [hteam t (Option.mem_toList.mp ht)] at heq
        exact hout (heq ▸ List.mem_map_of_mem hother)
      · cases h.unique _ _ _ ⟨other, hin, heq⟩ ⟨t.range, hrange, rfl⟩
      · cases h.unique _ _ _ ⟨other, hin, heq⟩ ⟨t.melee, hmelee, rfl⟩
    exact hstep.trans (ih hstep.invariant hstay hrest)

/-! ### The update as a whole -/

theorem increasePlayerMMrRange_playerGuid (now : Nat) (info : SoloQueueInfo) :
    (increasePlayerMMrRange now info).playerGuid = info.playerGuid := by
  unfold increasePlayerMMrRange
  split
  · rfl
  · split
    · rfl
    · rfl

theorem increaseRanges_guids (s : SoloQueue) (now : Nat) (c : TalentCategory) :
    ((s.increaseRanges now).queued c).map SoloQueueInfo.playerGuid =
      (s.queued c).map SoloQueueInfo.playerGuid := by
  rw [increaseRanges, List.map_map]
  refine List.map_congr_left ?_
  intro info _
  dsimp only [Function.comp_apply]
  split
  · exact increasePlayerMMrRange_playerGuid now info
  · rfl

theorem inList_iff_mem_guids (s : SoloQueue) (c : TalentCategory) (guid : Nat) :
    s.InList c guid ↔ guid ∈ (s.queued c).map SoloQueueInfo.playerGuid :=
  List.mem_map.symm

theorem increaseRanges_inList (s : SoloQueue) (now : Nat) (c : TalentCategory) (guid : Nat) :
    (s.increaseRanges now).InList c guid ↔ s.InList c guid := by
  rw [inList_iff_mem_guids, increaseRanges_guids, ← inList_iff_mem_guids]

theorem Invariant.increaseRanges (h : s.Invariant) (lastUpdateTime now : Nat) :
    ({ s with lastUpdateTime := lastUpdateTime }.increaseRanges now).Invariant := by
  have hin := increaseRanges_inList { s with lastUpdateTime := lastUpdateTime } now
  refine ⟨⟨?_, ?_, ?_⟩, h.bgQueue, ?_, ?_, ?_, ?_⟩
  · intro guid
    refine (h.all_iff guid).trans (exists_congr ?_)
    exact fun c => (hin c guid).symm
  · intro guid c c' hc hc'
    exact h.unique guid c c' ((hin c guid).mp hc) ((hin c' guid).mp hc')
  · intro c
    rw [increaseRanges_guids]
    exact h.once c
  · intro guid c hc
    exact h.listed_holds guid c ((hin c guid).mp hc)
  · exact h.grouped_holds
  · intro guid c hcontains hc
    exact h.grouped_unlisted guid c hcontains ((hin c guid).mp hc)
  · intro guid hholds
    refine (h.holder guid hholds).imp_left (Exists.imp ?_)
    exact fun c => (hin c guid).mpr

/-- An update preserves the invariant, and each team it reports was formed as it should be. -/
theorem Invariant.update (h : s.Invariant) (args : SoloUpdateArgs) :
    (s.update args).1.Invariant ∧
      ∀ t ∈ (s.update args).2, FormedTeam s (s.update args).1 t := by
  unfold SoloQueue.update
  split
  · refine ⟨h, ?_⟩
    intro t ht
    cases ht
  · have hranges := h.increaseRanges args.now args.now
    have hin := increaseRanges_inList { s with lastUpdateTime := args.now } args.now
    dsimp only
    generalize ({ s with lastUpdateTime := args.now } : SoloQueue).increaseRanges args.now = s₁
      at hranges hin
    have hstep := hranges.formTeams args (fun _ hhealer => hhealer) (hranges.once .healer)
    refine ⟨hstep.invariant, ?_⟩
    intro t ht
    obtain ⟨hhealer, hrange, hmelee, hnodup⟩ := hstep.waited t ht
    have hgrouped : ∀ guid ∈ t.guids,
        (SoloQueue.formTeams args (s₁.queued .healer) s₁).1.bgQueue.queuedPlayers.contains guid =
          true :=
      fun guid hguid => (hstep.grouped guid).mpr (Or.inr ⟨t, ht, hguid⟩)
    have hunlisted : ∀ guid ∈ t.guids, ∀ c,
        ¬ (SoloQueue.formTeams args (s₁.queued .healer) s₁).1.InList c guid :=
      fun guid hguid c => hstep.invariant.grouped_unlisted guid c (hgrouped guid hguid)
    refine ⟨(hin _ _).mp ⟨_, hhealer, rfl⟩, (hin _ _).mp ⟨_, hrange, rfl⟩,
      (hin _ _).mp ⟨_, hmelee, rfl⟩, hnodup, ?_, hgrouped⟩
    intro guid hguid
    refine ⟨?_, hunlisted guid hguid⟩
    rw [← Bool.not_eq_true, hstep.invariant.all_iff, not_exists]
    exact hunlisted guid hguid

/-! ### Runs -/

/-- The calls of the solo queue outside testing mode. `RemovePlayer` is called alone on logout, and
otherwise by a player who leaves. -/
inductive SoloCall
  | addPlayer (p : SoloPlayer)
  | removePlayer (guid : Nat)
  | leaveQueue (guid : Nat)
  | update (args : SoloUpdateArgs)

def step (s : SoloQueue) : SoloCall → SoloQueue
  | .addPlayer p => s.addPlayer p false
  | .removePlayer guid => (s.removePlayer guid).1
  | .leaveQueue guid => s.leaveQueue guid
  | .update args => (s.update args).1

/-- The call does not take a queue slot for a player of unknown category, and does not leave one to
a player it takes out of a list. -/
def Allowed (s : SoloQueue) : SoloCall → Prop
  | .addPlayer p => s.unknownJoin p false = false
  | .removePlayer guid => (s.removePlayer guid).2 = false
  | .leaveQueue _ => True
  | .update _ => True

theorem Invariant.step (h : s.Invariant) {call : SoloCall} (hallowed : s.Allowed call) :
    (SoloQueue.step s call).Invariant := by
  cases call with
  | addPlayer p => exact h.addPlayer hallowed
  | removePlayer guid => exact h.removePlayer hallowed
  | leaveQueue guid => exact h.leaveQueue guid
  | update args => exact (h.update args).1

theorem Invariant.not_consistent_step (h : s.Invariant) {call : SoloCall}
    (hbad : ¬ s.Allowed call) : ¬ (SoloQueue.step s call).Consistent := by
  cases call with
  | addPlayer p => exact h.not_consistent_addPlayer (Bool.not_eq_false _ ▸ hbad)
  | removePlayer guid => exact h.not_consistent_removePlayer (Bool.not_eq_false _ ▸ hbad)
  | leaveQueue guid => exact absurd trivial hbad
  | update args => exact absurd trivial hbad

/-- The lists, the set of all players and the queue slots agree in every state of a run, and every
team is formed as it should be, exactly when no call takes a queue slot for a player of unknown
category or leaves one to a player it takes out of a list. -/
theorem consistent_iff_allowed (calls : List SoloCall) :
    (∀ before, before <+: calls → (Runs.run step empty before).Consistent ∧
      ∀ args, ∀ t ∈ ((Runs.run step empty before).update args).2,
        FormedTeam (Runs.run step empty before)
          ((Runs.run step empty before).update args).1 t) ↔
      Runs.Admissible step Allowed empty calls := by
  refine Runs.throughout_iff_admissible (I := Invariant) (P := fun s => s.Consistent ∧
    ∀ args, ∀ t ∈ (s.update args).2, FormedTeam s (s.update args).1 t) ?_ ?_ ?_
    invariant_empty calls
  · exact fun h => ⟨h.consistent, fun args => (h.update args).2⟩
  · exact fun h hallowed => h.step hallowed
  · exact fun h hbad hholds => h.not_consistent_step hbad hholds.1

/-- A player of the category who meets the requirements. -/
def waitingPlayer (guid mmr : Nat) (category : Option TalentCategory) : SoloPlayer :=
  ⟨guid, mmr, some guid, category, true, 0⟩

def soloUpdate : SoloUpdateArgs :=
  ⟨5000, 150, some BattlegroundQueue.ratedUpdate.bracket, fun _ => 50000⟩

def fourJoin : List SoloCall :=
  [.addPlayer (waitingPlayer 1 1500 (some .healer)),
    .addPlayer (waitingPlayer 2 1600 (some .range)),
    .addPlayer (waitingPlayer 3 1400 (some .melee)),
    .addPlayer (waitingPlayer 4 1500 (some .melee)), .leaveQueue 3]

/-- Three of four players form a team after the other has left the queue. -/
theorem consistent_after_team :
    (Runs.run step empty fourJoin).Consistent ∧
      FormedTeam (Runs.run step empty fourJoin) ((Runs.run step empty fourJoin).update soloUpdate).1
        ⟨⟨1, 1500, 1, 0, 0, 0⟩, ⟨2, 1600, 2, 0, 0, 0⟩, ⟨4, 1500, 4, 0, 0, 0⟩⟩ := by
  have hallowed : Runs.Admissible step Allowed empty fourJoin := by
    refine ⟨?_, ?_, ?_, ?_, trivial, trivial⟩ <;> rfl
  obtain ⟨hconsistent, hteam⟩ :=
    (consistent_iff_allowed fourJoin).mpr hallowed _ (List.prefix_refl _)
  refine ⟨hconsistent, hteam soloUpdate _ ?_⟩
  decide +kernel

/-- A player of unknown category gets the queue id and waits nowhere. -/
theorem holder_waits_nowhere :
    ¬ (Runs.run step empty [.addPlayer (waitingPlayer 1 1500 none)]).Consistent := by
  intro h
  obtain ⟨c, info, hinfo, -⟩ | ⟨g, group, hgroup, -⟩ := h.holder 1 rfl
  · cases hinfo
  · cases hgroup

end SoloQueue

end Cataclysm.Battlegrounds
