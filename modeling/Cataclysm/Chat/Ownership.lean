import Cataclysm.Chat.Channel
import Cataclysm.Lib.Runs

/-!
# The owner of a custom channel

A custom channel that has members has one owner among them, whose guid it keeps and who is a
moderator, and no member is banned. This holds in every run in which no owner kicks or bans himself:
the channel makes the requester the owner in place of the victim, so such an owner comes back as a
member, or stays the owner of an empty channel.
-/

namespace Cataclysm.Chat

open Channel

/-! ### Flags -/

namespace PlayerInfo

/-- The flags that the requests set. -/
def memberFlags : List (BitVec 8) := [memberFlagOwner, memberFlagModerator, memberFlagMuted]

theorem hasFlag_withFlag (info : PlayerInfo) (state : Bool) {flag other : BitVec 8}
    (hflag : flag ∈ memberFlags) (hother : other ∈ memberFlags) :
    (info.withFlag flag state).hasFlag other =
      if other = flag then state else info.hasFlag other := by
  have hbits : ∀ flag ∈ memberFlags, ∀ other ∈ memberFlags,
      flag &&& other = (if other = flag then flag else 0) ∧ flag ≠ 0 ∧
        ~~~flag &&& other = if other = flag then 0 else other := by decide +kernel
  obtain ⟨hand, hne, hnot⟩ := hbits flag hflag other hother
  rw [hasFlag, withFlag]
  dsimp only
  cases state with
  | true =>
    rw [if_pos rfl, BitVec.and_or_distrib_right, hand]
    split
    · exact bne_iff_ne.mpr fun h => hne (BitVec.or_eq_zero_iff.mp h).2
    · exact congrArg (· != 0) BitVec.or_zero
  | false =>
    rw [if_neg Bool.false_ne_true, BitVec.and_assoc, hnot]
    split
    · exact congrArg (· != 0) BitVec.and_zero
    · rfl

@[simp] theorem isOwner_setOwner (info : PlayerInfo) (state : Bool) :
    (info.setOwner state).isOwner = state :=
  hasFlag_withFlag info state (by decide) (by decide)

@[simp] theorem isOwner_setModerator (info : PlayerInfo) (state : Bool) :
    (info.setModerator state).isOwner = info.isOwner :=
  hasFlag_withFlag info state (by decide) (by decide)

@[simp] theorem isOwner_setMuted (info : PlayerInfo) (state : Bool) :
    (info.setMuted state).isOwner = info.isOwner :=
  hasFlag_withFlag info state (by decide) (by decide)

@[simp] theorem isModerator_setModerator (info : PlayerInfo) (state : Bool) :
    (info.setModerator state).isModerator = state :=
  hasFlag_withFlag info state (by decide) (by decide)

@[simp] theorem isModerator_setOwner (info : PlayerInfo) (state : Bool) :
    (info.setOwner state).isModerator = info.isModerator :=
  hasFlag_withFlag info state (by decide) (by decide)

@[simp] theorem isModerator_setMuted (info : PlayerInfo) (state : Bool) :
    (info.setMuted state).isModerator = info.isModerator :=
  hasFlag_withFlag info state (by decide) (by decide)

theorem isOwner_new (guid : Nat) : (⟨guid, 0⟩ : PlayerInfo).isOwner = false := by
  have hflags : ((0 : BitVec 8) &&& memberFlagOwner != 0) = false := by decide
  exact hflags

end PlayerInfo

/-! ### Channels between two requests -/

/-- No member is banned, every member has joined, and only the owner has the flag of one. -/
structure Sound (c : Channel) : Prop where
  ownership : c.ownership = true
  row : ∀ row ∈ c.row, row.ownership = true
  player : ∀ {guid info}, c.playersStore.find? guid = some info → info.player = guid ∧ guid ≠ 0
  notBanned : ∀ {guid info}, c.playersStore.find? guid = some info → guid ∉ c.bannedStore
  joined : ∀ {guid info}, c.playersStore.find? guid = some info → guid ∈ c.joined
  only : ∀ {guid info}, c.playersStore.find? guid = some info → info.isOwner = true →
    guid = c.ownerGUID

/-- The owner of a channel is a member, and a channel without an owner is empty. -/
structure Owned (c : Channel) : Prop extends Sound c where
  owner : c.ownerGUID ≠ 0 → ∃ info, c.playersStore.find? c.ownerGUID = some info ∧
    info.isOwner = true ∧ info.isModerator = true
  empty : c.ownerGUID = 0 → ∀ guid, c.playersStore.find? guid = none

variable {c : Channel} {guid : Nat}

theorem Sound.updateChannelInDB (h : Sound c) : Sound c.updateChannelInDB := by
  rw [Channel.updateChannelInDB]
  split
  · refine ⟨h.ownership, ?_, h.player, h.notBanned, h.joined, h.only⟩
    intro row hrow
    cases hrow
    exact h.ownership
  · exact h

theorem Owned.updateChannelInDB (h : Owned c) : Owned c.updateChannelInDB := by
  refine ⟨h.toSound.updateChannelInDB, ?_, ?_⟩
  · rw [Channel.updateChannelInDB]
    split
    · exact h.owner
    · exact h.owner
  · rw [Channel.updateChannelInDB]
    split
    · exact h.empty
    · exact h.empty

theorem isOn_iff : c.isOn guid = true ↔ ∃ info, c.playersStore.find? guid = some info := by
  rw [isOn, OrderedMap.contains, Option.isSome_iff_exists]

/-- The flags of a member change. -/
theorem find?_modifyMember {info : PlayerInfo} (hinfo : c.playersStore.find? guid = some info)
    (f : PlayerInfo → PlayerInfo) (other : Nat) :
    (c.modifyMember guid f).playersStore.find? other =
      if other = guid then some (f info) else c.playersStore.find? other := by
  rw [modifyMember]
  dsimp only
  rw [OrderedMap.find?_insert, member, hinfo, Option.getD_some]

theorem Sound.modifyMember {info : PlayerInfo} (h : Sound c)
    (hinfo : c.playersStore.find? guid = some info) {f : PlayerInfo → PlayerInfo}
    (hplayer : (f info).player = info.player)
    (howner : (f info).isOwner = true → info.isOwner = true) : Sound (c.modifyMember guid f) := by
  have hold : ∀ {other info'}, (c.modifyMember guid f).playersStore.find? other = some info' →
      ∃ info, c.playersStore.find? other = some info ∧ info'.player = info.player ∧
        (info'.isOwner = true → info.isOwner = true) := by
    intro other info' hfind
    rw [find?_modifyMember hinfo] at hfind
    split at hfind
    · next heq =>
        cases hfind
        exact ⟨info, heq ▸ hinfo, hplayer, howner⟩
    · exact ⟨info', hfind, rfl, id⟩
  refine ⟨h.ownership, h.row, ?_, ?_, ?_, ?_⟩
  · intro other info' hfind
    obtain ⟨info, hinfo, hsame, -⟩ := hold hfind
    rw [hsame]
    exact h.player hinfo
  · intro other info' hfind
    obtain ⟨info, hinfo, -⟩ := hold hfind
    exact h.notBanned hinfo
  · intro other info' hfind
    obtain ⟨info, hinfo, -⟩ := hold hfind
    exact h.joined hinfo
  · intro other info' hfind hisOwner
    obtain ⟨info, hinfo, -, hflag⟩ := hold hfind
    exact h.only hinfo (hflag hisOwner)

/-! ### A new owner -/

/-- The old owner loses his flag. -/
def clearOwner (c : Channel) : Channel :=
  if c.ownerGUID ≠ 0 then
    match c.playersStore.find? c.ownerGUID with
    | none => c
    | some info => { c with playersStore := c.playersStore.insert c.ownerGUID (info.setOwner false) }
  else c

theorem setOwner_eq (hne : guid ≠ 0) :
    c.setOwner guid = ((modifyMember { clearOwner c with ownerGUID := guid } guid fun info =>
      info.setModerator true).modifyMember guid fun info =>
        info.setOwner true).updateChannelInDB := by
  rw [setOwner]
  exact if_pos hne

theorem ownerGUID_setOwner (c : Channel) (hne : guid ≠ 0) : (c.setOwner guid).ownerGUID = guid := by
  rw [setOwner_eq hne, updateChannelInDB]
  split
  · rfl
  · rfl

theorem Sound.clearOwner (h : Sound c) :
    Sound (clearOwner c) ∧
      (∀ {guid info}, (clearOwner c).playersStore.find? guid = some info → info.isOwner = false) ∧
        ∀ {guid info}, c.playersStore.find? guid = some info →
          ∃ info', (clearOwner c).playersStore.find? guid = some info' := by
  have hnone : ∀ {guid info}, c.playersStore.find? guid = some info → guid ≠ c.ownerGUID →
      info.isOwner = false := by
    intro guid info hinfo hne
    exact Bool.eq_false_iff.mpr fun hisOwner => hne (h.only hinfo hisOwner)
  rw [Chat.clearOwner]
  split
  · split
    · next hmissing =>
        refine ⟨h, fun {guid info} hinfo => hnone hinfo ?_, fun hinfo => ⟨_, hinfo⟩⟩
        rintro rfl
        rw [hmissing] at hinfo
        cases hinfo
    · next info howner =>
        have heq : c.modifyMember c.ownerGUID (fun info => info.setOwner false) =
            { c with playersStore := c.playersStore.insert c.ownerGUID (info.setOwner false) } := by
          rw [Channel.modifyMember, member, howner, Option.getD_some]
        have hfind := find?_modifyMember howner fun info => info.setOwner false
        have hsound : Sound (c.modifyMember c.ownerGUID fun info => info.setOwner false) := by
          refine h.modifyMember howner rfl fun hflag => ?_
          rw [PlayerInfo.isOwner_setOwner] at hflag
          cases hflag
        rw [← heq]
        refine ⟨hsound, ?_, ?_⟩
        · intro guid info' hinfo'
          rw [hfind] at hinfo'
          split at hinfo'
          · cases hinfo'
            exact PlayerInfo.isOwner_setOwner info false
          · next hne => exact hnone hinfo' hne
        · intro guid info' hinfo'
          rw [hfind]
          split
          · exact ⟨_, rfl⟩
          · exact ⟨info', hinfo'⟩
  · next hzero =>
      refine ⟨h, fun {guid info} hinfo => hnone hinfo ?_, fun hinfo => ⟨_, hinfo⟩⟩
      rw [not_not.mp hzero]
      exact (h.player hinfo).2

theorem Sound.setOwner {info : PlayerInfo} (h : Sound c)
    (hinfo : c.playersStore.find? guid = some info) : Owned (c.setOwner guid) := by
  have hne := (h.player hinfo).2
  rw [setOwner_eq hne]
  obtain ⟨hcleared, hnone, hkept⟩ := h.clearOwner
  obtain ⟨info', hinfo'⟩ := hkept hinfo
  generalize Chat.clearOwner c = cleared at *
  have hsound : Sound { cleared with ownerGUID := guid } := by
    refine ⟨hcleared.ownership, hcleared.row, hcleared.player, hcleared.notBanned,
      hcleared.joined, ?_⟩
    intro other found hfound hisOwner
    rw [hnone hfound] at hisOwner
    cases hisOwner
  have hmoderator := hsound.modifyMember hinfo' (f := fun info => info.setModerator true) rfl
    fun hflag => by rwa [PlayerInfo.isOwner_setModerator] at hflag
  have hfind := find?_modifyMember (c := { cleared with ownerGUID := guid }) hinfo'
    fun info => info.setModerator true
  have hself := hfind guid
  rw [if_pos rfl] at hself
  have hfind' := find?_modifyMember hself fun info => info.setOwner true
  have hself' := hfind' guid
  rw [if_pos rfl] at hself'
  refine Owned.updateChannelInDB ⟨⟨hmoderator.ownership, hmoderator.row, ?_, ?_, ?_, ?_⟩, ?_, ?_⟩
  · intro other found hfound
    rw [hfind'] at hfound
    split at hfound
    · next heq =>
        cases hfound
        rw [heq]
        have hplayer := hmoderator.player hself
        exact hplayer
    · exact hmoderator.player hfound
  · intro other found hfound
    rw [hfind'] at hfound
    split at hfound
    · next heq =>
        rw [heq]
        exact hmoderator.notBanned hself
    · exact hmoderator.notBanned hfound
  · intro other found hfound
    rw [hfind'] at hfound
    split at hfound
    · next heq =>
        rw [heq]
        exact hmoderator.joined hself
    · exact hmoderator.joined hfound
  · intro other found hfound hisOwner
    rw [hfind'] at hfound
    split at hfound
    · next heq => exact heq
    · exact hmoderator.only hfound hisOwner
  · intro _
    refine ⟨_, hself', ?_, ?_⟩
    · exact PlayerInfo.isOwner_setOwner _ true
    · rw [PlayerInfo.isModerator_setOwner]
      exact PlayerInfo.isModerator_setModerator _ true
  · intro hzero
    exact absurd hzero hne

/-- A flag of a member changes that does not make him an owner, and the owner keeps his flags. -/
theorem Owned.modifyMember {info : PlayerInfo} (h : Owned c)
    (hinfo : c.playersStore.find? guid = some info) {f : PlayerInfo → PlayerInfo}
    (hplayer : (f info).player = info.player) (howner : (f info).isOwner = info.isOwner)
    (hmoderator : guid = c.ownerGUID → info.isModerator = true → (f info).isModerator = true) :
    Owned (c.modifyMember guid f) := by
  have hfind := find?_modifyMember hinfo f
  refine ⟨h.toSound.modifyMember hinfo hplayer fun hflag => howner ▸ hflag, ?_, ?_⟩
  · intro hne
    obtain ⟨found, hfound, hisOwner, hisModerator⟩ := h.owner hne
    have hsame : (c.modifyMember guid f).ownerGUID = c.ownerGUID := rfl
    rw [hsame, hfind]
    split
    · next heq =>
        rw [heq, hinfo] at hfound
        cases hfound
        exact ⟨f info, rfl, howner.trans hisOwner, hmoderator heq.symm hisModerator⟩
    · exact ⟨found, hfound, hisOwner, hisModerator⟩
  · intro hzero
    have hnone := h.empty hzero guid
    rw [hinfo] at hnone
    cases hnone

/-! ### Members who come and go -/

/-- The channel without a member, who may be banned. -/
structure Removes (guid : Nat) (c c' : Channel) : Prop where
  ownership : c'.ownership = c.ownership
  ownerGUID : c'.ownerGUID = c.ownerGUID
  row : ∀ row ∈ c'.row, row.ownership = true
  playersStore : c'.playersStore = c.playersStore.erase guid
  notBanned : ∀ {other}, other ≠ guid → other ∉ c.bannedStore → other ∉ c'.bannedStore
  joined : ∀ {other}, other ≠ guid → other ∈ c.joined → other ∈ c'.joined

variable {c' : Channel} {info : PlayerInfo}

theorem Removes.find? (hremoves : Removes guid c c') (other : Nat) :
    c'.playersStore.find? other = if other = guid then none else c.playersStore.find? other := by
  rw [hremoves.playersStore, OrderedMap.find?_erase]

theorem Removes.sound (hremoves : Removes guid c c') (h : Sound c) : Sound c' := by
  have hold : ∀ {other info}, c'.playersStore.find? other = some info →
      other ≠ guid ∧ c.playersStore.find? other = some info := by
    intro other info hinfo
    rw [hremoves.find?] at hinfo
    split at hinfo
    · cases hinfo
    · next hne => exact ⟨hne, hinfo⟩
  refine ⟨hremoves.ownership.trans h.ownership, hremoves.row, ?_, ?_, ?_, ?_⟩
  · intro other info hinfo
    exact h.player (hold hinfo).2
  · intro other info hinfo
    obtain ⟨hne, hinfo⟩ := hold hinfo
    exact hremoves.notBanned hne (h.notBanned hinfo)
  · intro other info hinfo
    obtain ⟨hne, hinfo⟩ := hold hinfo
    exact hremoves.joined hne (h.joined hinfo)
  · intro other info hinfo hisOwner
    rw [hremoves.ownerGUID]
    exact h.only (hold hinfo).2 hisOwner

/-- A member goes who is not the owner. -/
theorem Removes.owned (hremoves : Removes guid c c') (h : Owned c) (hne : guid ≠ c.ownerGUID)
    (hinfo : c.playersStore.find? guid = some info) : Owned c' := by
  refine ⟨hremoves.sound h.toSound, ?_, ?_⟩
  · intro howner
    rw [hremoves.ownerGUID] at howner
    rw [hremoves.ownerGUID, hremoves.find?, if_neg hne.symm]
    exact h.owner howner
  · intro hzero
    rw [hremoves.ownerGUID] at hzero
    have hnone := h.empty hzero guid
    rw [hinfo] at hnone
    cases hnone

/-- A member becomes a moderator and the owner. -/
theorem Sound.promote (h : Sound c) (hinfo : c.playersStore.find? guid = some info) :
    Owned ((c.modifyMember guid fun info => info.setModerator true).setOwner guid) := by
  have hmoderator := h.modifyMember hinfo (f := fun info => info.setModerator true) rfl
    fun hflag => by rwa [PlayerInfo.isOwner_setModerator] at hflag
  have hself := find?_modifyMember hinfo (fun info => info.setModerator true) guid
  rw [if_pos rfl] at hself
  exact hmoderator.setOwner hself

theorem Owned.setModerator (h : Owned c) (hinfo : c.playersStore.find? guid = some info) :
    Owned (c.modifyMember guid fun info => info.setModerator true) :=
  h.modifyMember hinfo rfl (PlayerInfo.isOwner_setModerator info true)
    fun _ _ => PlayerInfo.isModerator_setModerator info true

theorem owned_newChannel (w : World) {row : Option ChannelRow}
    (hrow : ∀ r ∈ row, r.ownership = true) : Owned (newChannel w row) := by
  have hfresh : ∀ (c : Channel), c.ownership = true → (∀ r ∈ c.row, r.ownership = true) →
      c.ownerGUID = 0 → c.playersStore = OrderedMap.empty → Owned c := by
    intro c hownership hrow howner hempty
    have hnone : ∀ guid, c.playersStore.find? guid = none := by
      intro guid
      rw [hempty]
      rfl
    have habsurd : ∀ {guid info}, c.playersStore.find? guid = some info → False := by
      intro guid info hinfo
      rw [hnone] at hinfo
      cases hinfo
    exact ⟨⟨hownership, hrow, fun hinfo => (habsurd hinfo).elim, fun hinfo => (habsurd hinfo).elim,
      fun hinfo => (habsurd hinfo).elim, fun hinfo => (habsurd hinfo).elim⟩,
      fun hne => absurd howner hne, fun _ => hnone⟩
  unfold newChannel
  dsimp only
  split
  · split
    · next r => exact hfresh _ (hrow r rfl) hrow rfl rfl
    · refine hfresh _ rfl (fun r hr => ?_) rfl rfl
      cases hr
      rfl
  · exact hfresh _ rfl hrow rfl rfl

theorem Owned.joinChannel (h : Owned c) {player : Player} (hguid : player.guid ≠ 0)
    (pass : String) : Owned (c.joinChannel player pass) := by
  rw [Channel.joinChannel]
  split
  · exact h
  · next hnotOn =>
      split
      · exact h
      · next hnotBanned =>
          split
          · exact h
          · have hfind : ∀ other, (c.playersStore.insert player.guid
                ⟨player.guid, 0⟩).find? other = if other = player.guid
                  then some ⟨player.guid, 0⟩ else c.playersStore.find? other :=
              fun other => OrderedMap.find?_insert _ _ _ _
            have hsound : Sound { c with
                joined := insert player.guid c.joined
                playersStore := c.playersStore.insert player.guid ⟨player.guid, 0⟩ } := by
              refine ⟨h.ownership, h.row, ?_, ?_, ?_, ?_⟩
              · intro other info hinfo
                dsimp only at hinfo
                rw [hfind] at hinfo
                split at hinfo
                · next heq =>
                    cases hinfo
                    exact ⟨heq.symm, heq ▸ hguid⟩
                · exact h.player hinfo
              · intro other info hinfo
                dsimp only at hinfo
                rw [hfind] at hinfo
                split at hinfo
                · next heq => exact heq ▸ hnotBanned
                · exact h.notBanned hinfo
              · intro other info hinfo
                dsimp only at hinfo ⊢
                rw [hfind] at hinfo
                split at hinfo
                · next heq => exact heq ▸ Finset.mem_insert_self _ _
                · exact Finset.mem_insert_of_mem (h.joined hinfo)
              · intro other info hinfo hisOwner
                dsimp only at hinfo
                rw [hfind] at hinfo
                split at hinfo
                · cases hinfo
                  rw [PlayerInfo.isOwner_new] at hisOwner
                  cases hisOwner
                · exact h.only hinfo hisOwner
            have hself := hfind player.guid
            rw [if_pos rfl] at hself
            dsimp only
            split
            · have howned := hsound.setOwner hself
              have howner := ownerGUID_setOwner { c with
                joined := insert player.guid c.joined
                playersStore := c.playersStore.insert player.guid ⟨player.guid, 0⟩ } hguid
              obtain ⟨info, hinfo, -⟩ := howned.owner (howner.trans_ne hguid)
              rw [howner] at hinfo
              exact howned.setModerator hinfo
            · next hnotFirst =>
                have hne : c.ownerGUID ≠ 0 := fun hzero => hnotFirst ⟨hzero, h.ownership⟩
                refine ⟨hsound, ?_, fun hzero => absurd hzero hne⟩
                intro _
                dsimp only
                rw [hfind]
                split
                · next heq =>
                    obtain ⟨info, hinfo, -⟩ := h.owner hne
                    rw [heq] at hinfo
                    exact absurd (isOn_iff.mpr ⟨info, hinfo⟩) hnotOn
                · exact h.owner hne

/-- A channel that is right, or no channel with a row that is. -/
def Governs : ChannelState → Prop
  | .absent row => ∀ r ∈ row, r.ownership = true
  | .present c => Owned c

theorem Owned.leftChannel (h : Owned c) : Governs (leftChannel c) := by
  rw [Chat.leftChannel]
  split
  · exact h.row
  · exact h

theorem isOn_eq_false (hnot : c.isOn guid = false) : c.playersStore.find? guid = none := by
  rw [isOn, OrderedMap.contains] at hnot
  exact Option.not_isSome_iff_eq_none.mp (Bool.eq_false_iff.mp hnot)

/-- A member leaves, and the first of the others becomes the owner if he was. -/
theorem Owned.leave (h : Owned c) {player : Player}
    (hinfo : c.playersStore.find? player.guid = some info) :
    Governs (Chat.leftChannel (c.leaveChannel player true)) := by
  have hon : c.isOn player.guid = true := isOn_iff.mpr ⟨info, hinfo⟩
  have hremoves : Removes player.guid c ((c.leftBy player.guid).eraseMember player.guid) :=
    ⟨rfl, rfl, h.row, rfl, fun _ hnot => hnot, fun hne hin => Finset.mem_erase.mpr ⟨hne, hin⟩⟩
  have hsound := hremoves.sound h.toSound
  have hmember : (c.leftBy player.guid).member player.guid = info := by
    rw [member, Channel.leftBy, hinfo, Option.getD_some]
  rw [leaveChannel, hon, if_neg Bool.true_eq_false.mp]
  dsimp only
  rw [if_pos rfl, hmember]
  generalize (c.leftBy player.guid).eraseMember player.guid = left at *
  split
  · next hnone =>
      rw [Chat.leftChannel, hnone, List.isEmpty_nil, if_pos rfl]
      exact hremoves.row
  · next k first rest hentries =>
      have hfirst : left.playersStore.find? k = some first :=
        OrderedMap.find?_eq_some_iff.mpr (hentries ▸ List.mem_cons_self)
      split
      · rw [(hsound.player hfirst).1]
        exact (hsound.promote hfirst).leftChannel
      · next hplain =>
          rw [hsound.ownership, Bool.and_true, Bool.not_eq_true] at hplain
          have hne : player.guid ≠ c.ownerGUID := by
            intro heq
            have howner : c.ownerGUID ≠ 0 := heq ▸ (h.player hinfo).2
            obtain ⟨found, hfound, hisOwner, -⟩ := h.owner howner
            rw [← heq, hinfo] at hfound
            cases hfound
            rw [hplain] at hisOwner
            cases hisOwner
          exact (hremoves.owned h hne hinfo).leftChannel

theorem Owned.leaveChannel (h : Owned c) (player : Player) :
    Governs (Chat.leftChannel (c.leaveChannel player true)) := by
  cases hon : c.isOn player.guid with
  | true =>
    obtain ⟨info, hinfo⟩ := isOn_iff.mp hon
    exact h.leave hinfo
  | false =>
    rw [Channel.leaveChannel, if_pos hon]
    exact h.leftChannel

/-- Nothing is left of a player who is on no list. -/
theorem Owned.leftBy (h : Owned c) (hnone : c.playersStore.find? guid = none) :
    Owned (c.leftBy guid) := by
  refine ⟨⟨h.ownership, h.row, h.player, h.notBanned, ?_, h.only⟩, h.owner, h.empty⟩
  intro other info hinfo
  have hne : other ≠ guid := by
    rintro rfl
    have hinfo' : c.playersStore.find? other = some info := hinfo
    rw [hnone] at hinfo'
    cases hinfo'
  exact Finset.mem_erase.mpr ⟨hne, h.joined hinfo⟩

theorem Owned.cleanupChannels (h : Owned c) (player : Player) :
    Governs (Chat.cleanupChannels player c) := by
  rw [Chat.cleanupChannels]
  split
  · cases hon : c.isOn player.guid with
    | true =>
      obtain ⟨info, hinfo⟩ := isOn_iff.mp hon
      have hleave : (c.leftBy player.guid).leaveChannel player false =
          c.leaveChannel player true := by
        have hon' : (c.leftBy player.guid).isOn player.guid = true := hon
        rw [Channel.leaveChannel, Channel.leaveChannel, hon, hon']
        rfl
      rw [hleave]
      exact h.leave hinfo
    | false =>
      have hon' : (c.leftBy player.guid).isOn player.guid = false := hon
      rw [Channel.leaveChannel, if_pos hon']
      exact (h.leftBy (isOn_eq_false hon)).leftChannel
  · exact h

/-! ### Moderators and game masters -/

/-- The requester is a member. -/
theorem exists_of_mayModerate {player : Player} (h : ¬ c.mayModerate player = false) :
    ∃ info, c.playersStore.find? player.guid = some info := by
  rw [Bool.not_eq_false, mayModerate, Bool.and_eq_true] at h
  exact isOn_iff.mp h.1

theorem removes_kicked (h : Sound c) (ban : Bool) (guid : Nat) :
    Removes guid c (((if ban = true ∧ guid ∉ c.bannedStore then c.insertBanned guid
      else c).eraseMember guid).leftBy guid) := by
  split
  · have hrow : ∀ row ∈ (c.insertBanned guid).row, row.ownership = true := by
      rw [insertBanned, updateChannelInDB]
      split
      · intro row hrow
        cases hrow
        exact h.ownership
      · exact h.row
    have hbanned : (c.insertBanned guid).bannedStore = insert guid c.bannedStore := by
      rw [insertBanned, updateChannelInDB]
      split <;> rfl
    have hsame : (c.insertBanned guid).ownership = c.ownership ∧
        (c.insertBanned guid).ownerGUID = c.ownerGUID ∧
          (c.insertBanned guid).playersStore = c.playersStore ∧
            (c.insertBanned guid).joined = c.joined := by
      rw [insertBanned, updateChannelInDB]
      split <;> exact ⟨rfl, rfl, rfl, rfl⟩
    obtain ⟨hownership, howner, hstore, hjoined⟩ := hsame
    refine ⟨hownership, howner, hrow, congrArg (OrderedMap.erase · guid) hstore, ?_, ?_⟩
    · intro other hne hnot hin
      have hin' : other ∈ (c.insertBanned guid).bannedStore := hin
      rw [hbanned, Finset.mem_insert] at hin'
      exact hin'.elim hne hnot
    · intro other hne hin
      refine Finset.mem_erase.mpr ⟨hne, ?_⟩
      exact hjoined.symm ▸ hin
  · exact ⟨rfl, rfl, h.row, rfl, fun _ hnot => hnot, fun hne hin => Finset.mem_erase.mpr ⟨hne, hin⟩⟩

theorem Owned.kickOrBan (h : Owned c) {w : World} {player : Player} {badname : String}
    (hspares : player.guid = c.ownerGUID → ∀ bad, w.findPlayerByName badname = some bad →
      bad.guid ≠ player.guid) (ban : Bool) : Owned (c.kickOrBan w player badname ban) := by
  rw [Channel.kickOrBan]
  split
  · exact h
  · next hmoderates =>
      obtain ⟨info, hinfo⟩ := exists_of_mayModerate hmoderates
      split
      · exact h
      · next bad hbad =>
          split
          · exact h
          · next hon =>
              obtain ⟨badInfo, hbadInfo⟩ := isOn_iff.mp (Bool.eq_true_of_not_eq_false hon)
              dsimp only
              split
              · exact h
              · have hremoves := removes_kicked h.toSound ban bad.guid
                generalize Channel.leftBy (Channel.eraseMember (if ban = true ∧
                  bad.guid ∉ c.bannedStore then c.insertBanned bad.guid else c) bad.guid)
                    bad.guid = kicked at *
                split
                · next hchange =>
                    have howner : c.ownerGUID = bad.guid := beq_iff_eq.mp hchange.1
                    have hne : player.guid ≠ bad.guid := fun heq =>
                      hspares (heq.trans howner.symm) bad hbad heq.symm
                    have hstays : kicked.playersStore.find? player.guid = some info := by
                      rw [hremoves.find?, if_neg hne]
                      exact hinfo
                    exact (hremoves.sound h.toSound).promote hstays
                · next hchange =>
                    by_cases howner : c.ownerGUID = bad.guid
                    · have hne : player.guid ≠ bad.guid := fun heq =>
                        hspares (heq.trans howner.symm) bad hbad heq.symm
                      refine absurd ⟨beq_iff_eq.mpr howner, ?_, ?_⟩ hchange
                      · exact hremoves.ownership.trans h.ownership
                      · have hstays : kicked.playersStore.find? player.guid = some info := by
                          rw [hremoves.find?, if_neg hne]
                          exact hinfo
                        exact List.ne_nil_of_mem (OrderedMap.find?_eq_some_iff.mp hstays)
                    · exact hremoves.owned h (fun heq => howner heq.symm) hbadInfo

theorem Owned.unBan (h : Owned c) (w : World) (player : Player) (badname : String) :
    Owned (c.unBan w player badname) := by
  rw [Channel.unBan]
  split
  · exact h
  · split
    · exact h
    · split
      · exact h
      · refine Owned.updateChannelInDB ⟨⟨h.ownership, h.row, h.player, ?_, h.joined, h.only⟩,
          h.owner, h.empty⟩
        intro guid info hinfo hin
        exact h.notBanned hinfo (Finset.mem_of_mem_erase hin)

theorem Owned.setPassword (h : Owned c) (player : Player) (pass : String) :
    Owned (c.setPassword player pass) := by
  rw [Channel.setPassword]
  split
  · exact h
  · exact Owned.updateChannelInDB
      ⟨⟨h.ownership, h.row, h.player, h.notBanned, h.joined, h.only⟩, h.owner, h.empty⟩

/-- The flags of a member change, and those of the owner only when he is muted. -/
theorem Owned.setMemberMode (h : Owned c) (hinfo : c.playersStore.find? guid = some info)
    {mod : Bool} (hne : mod = true → guid ≠ c.ownerGUID) (set : Bool) :
    Owned (c.setMemberMode guid mod set) := by
  rw [Channel.setMemberMode]
  split
  · next hmod =>
      split
      · exact h.modifyMember hinfo rfl (PlayerInfo.isOwner_setModerator info set)
          fun heq => absurd heq (hne hmod)
      · exact h
  · split
    · exact h.modifyMember hinfo rfl (PlayerInfo.isOwner_setMuted info set)
        fun _ hmoderator => (PlayerInfo.isModerator_setMuted info set).trans hmoderator
    · exact h

theorem Owned.setMode (h : Owned c) {w : World} {player : Player}
    (hplayer : w.findPlayer player.guid = some player) (p2n : String) (mod set : Bool) :
    Owned (c.setMode w player p2n mod set) := by
  rw [Channel.setMode]
  split
  · exact h
  · split
    · exact h
    · next hnotSelf =>
        split
        · exact h
        · next newp hnewp =>
            split
            · exact h
            · next hon =>
                obtain ⟨info, hinfo⟩ := isOn_iff.mp (Bool.eq_true_of_not_eq_false hon)
                split
                · exact h
                · split
                  · exact h
                  · next hnotOwner =>
                      refine h.setMemberMode hinfo (fun hmod howner => ?_) set
                      obtain ⟨hfound, hname⟩ := w.foundByName hnewp
                      have hself : c.ownerGUID = player.guid :=
                        not_not.mp fun hne => hnotOwner ⟨howner.symm, hne⟩
                      -- the owner who names himself is told apart by his name
                      rw [howner, hself, hplayer] at hfound
                      cases hfound
                      exact hnotSelf ⟨hself.symm, hname.symm, hmod⟩

theorem Owned.setOwnerByName (h : Owned c) (w : World) (player : Player) (newname : String) :
    Owned (c.setOwnerByName w player newname) := by
  rw [Channel.setOwnerByName]
  split
  · exact h
  · split
    · exact h
    · split
      · exact h
      · next newp _ =>
          split
          · exact h
          · next hon =>
              obtain ⟨info, hinfo⟩ := isOn_iff.mp (Bool.eq_true_of_not_eq_false hon)
              split
              · exact h
              · exact h.toSound.promote hinfo

/-! ### Every run -/

/-- The owner does not kick or ban himself. -/
def SparesOwner (s : ChannelState) : World × Nat × Request → Prop
  | (w, guid, .kickOrBan badname _) =>
    match s with
    | .absent _ => True
    | .present c => guid = c.ownerGUID → ∀ bad, w.findPlayerByName badname = some bad →
        bad.guid ≠ guid
  | _ => True

theorem Governs.onPresent {s : ChannelState} (h : Governs s) {f : Channel → ChannelState}
    (hf : ∀ {c}, s = .present c → Owned c → Governs (f c)) : Governs (s.onPresent f) := by
  cases s with
  | absent row => exact h
  | present c => exact hf rfl h

theorem Governs.step {s : ChannelState} (h : Governs s) {request : World × Nat × Request}
    (hok : SparesOwner s request) : Governs (step s request) := by
  obtain ⟨w, guid, request⟩ := request
  rw [Chat.step]
  split
  · exact h
  · next player hplayer =>
      obtain ⟨hguid, hne⟩ := w.found hplayer
      subst hguid
      cases request with
      | joinChannel pass =>
        have hchannel : Owned (getJoinChannel w s) := by
          cases s with
          | absent row => exact owned_newChannel w h
          | present c => exact h
        exact hchannel.joinChannel hne pass
      | leaveChannel => exact h.onPresent fun _ hc => hc.leaveChannel player
      | cleanupChannels => exact h.onPresent fun _ hc => hc.cleanupChannels player
      | kickOrBan badname ban =>
        refine h.onPresent fun heq hc => ?_
        rw [heq] at hok
        exact hc.kickOrBan hok ban
      | unBan badname => exact h.onPresent fun _ hc => hc.unBan w player badname
      | setPassword pass => exact h.onPresent fun _ hc => hc.setPassword player pass
      | setMode p2n mod set => exact h.onPresent fun _ hc => hc.setMode hplayer p2n mod set
      | setOwner newname => exact h.onPresent fun _ hc => hc.setOwnerByName w player newname

/-- No member is banned, every member has joined and not left, and when there are members, exactly
one of them has the flag of an owner: he is a moderator and the channel keeps his guid. -/
structure RightlyOwned (c : Channel) : Prop where
  notBanned : ∀ guid, c.isOn guid = true → guid ∉ c.bannedStore
  joined : ∀ guid, c.isOn guid = true → guid ∈ c.joined
  owner : (∃ guid, c.isOn guid = true) → c.isOn c.ownerGUID = true ∧
    (c.member c.ownerGUID).isOwner = true ∧ (c.member c.ownerGUID).isModerator = true
  only : ∀ guid, c.isOn guid = true → (c.member guid).isOwner = true → guid = c.ownerGUID

def ChannelState.RightlyOwned : ChannelState → Prop
  | .absent _ => True
  | .present c => Chat.RightlyOwned c

theorem Owned.rightlyOwned (h : Owned c) : RightlyOwned c := by
  have hmember : ∀ {guid info}, c.playersStore.find? guid = some info → c.member guid = info := by
    intro guid info hinfo
    rw [member, hinfo, Option.getD_some]
  constructor
  · intro guid hon
    obtain ⟨info, hinfo⟩ := isOn_iff.mp hon
    exact h.notBanned hinfo
  · intro guid hon
    obtain ⟨info, hinfo⟩ := isOn_iff.mp hon
    exact h.joined hinfo
  · rintro ⟨guid, hon⟩
    obtain ⟨info, hinfo⟩ := isOn_iff.mp hon
    have hne : c.ownerGUID ≠ 0 := by
      intro hzero
      rw [h.empty hzero] at hinfo
      cases hinfo
    obtain ⟨found, hfound, hisOwner, hisModerator⟩ := h.owner hne
    rw [hmember hfound]
    exact ⟨isOn_iff.mpr ⟨found, hfound⟩, hisOwner, hisModerator⟩
  · intro guid hon hisOwner
    obtain ⟨info, hinfo⟩ := isOn_iff.mp hon
    rw [hmember hinfo] at hisOwner
    exact h.only hinfo hisOwner

/-- A channel with ownership is rightly owned in every run in which no owner kicks or bans
himself. -/
theorem rightlyOwned_of_run {row : Option ChannelRow} (hrow : ∀ r ∈ row, r.ownership = true)
    {requests before : List (World × Nat × Request)}
    (h : Runs.Admissible step SparesOwner (.absent row) requests) (hbefore : before <+: requests) :
    (Runs.run step (.absent row) before).RightlyOwned := by
  have hgoverns : Governs (Runs.run step (.absent row) before) :=
    h.invariant (fun hs hok => hs.step hok) hrow hbefore
  cases hstate : Runs.run step (.absent row) before with
  | absent row' => trivial
  | present c =>
    rw [hstate] at hgoverns
    exact hgoverns.rightlyOwned

/-! ### Two players -/

def firstPlayer : Player := ⟨1, "First", .horde, false⟩

def secondPlayer : Player := ⟨2, "Second", .horde, false⟩

def findPair (guid : Nat) : Option Player :=
  if guid = 1 then some firstPlayer else if guid = 2 then some secondPlayer else none

def findPairByName (name : String) : Option Player :=
  if name = "First" then some firstPlayer else if name = "Second" then some secondPlayer else none

theorem found_pair {guid : Nat} {player : Player} (h : findPair guid = some player) :
    player.guid = guid ∧ guid ≠ 0 := by
  rw [findPair] at h
  split at h
  · next heq =>
      cases h
      exact ⟨heq.symm, heq ▸ Nat.one_ne_zero⟩
  · split at h
    · next heq =>
        cases h
        exact ⟨heq.symm, heq ▸ two_ne_zero⟩
    · cases h

theorem foundByName_pair {name : String} {player : Player} (h : findPairByName name = some player) :
    findPair player.guid = some player ∧ player.name = name := by
  rw [findPairByName] at h
  split at h
  · next heq =>
      cases h
      exact ⟨rfl, heq.symm⟩
  · split at h
    · next heq =>
        cases h
        exact ⟨rfl, heq.symm⟩
    · cases h

def pairWorld : World := ⟨findPair, findPairByName, false, false, found_pair, foundByName_pair⟩

/-- The owner kicks the other member and leaves, and the other joins again. -/
theorem rightlyOwned_pair :
    (Runs.run step (.absent none) [(pairWorld, 1, .joinChannel ""),
      (pairWorld, 2, .joinChannel ""), (pairWorld, 1, .kickOrBan "Second" false),
      (pairWorld, 1, .leaveChannel), (pairWorld, 2, .joinChannel "")]).RightlyOwned := by
  have hspares : ∀ bad, findPairByName "Second" = some bad → bad.guid ≠ 1 := by
    intro bad hbad
    cases hbad
    decide
  have hadmissible : Runs.Admissible step SparesOwner (.absent none)
      [(pairWorld, 1, .joinChannel ""), (pairWorld, 2, .joinChannel ""),
        (pairWorld, 1, .kickOrBan "Second" false), (pairWorld, 1, .leaveChannel),
          (pairWorld, 2, .joinChannel "")] :=
    ⟨trivial, trivial, fun _ => hspares, trivial, trivial, trivial⟩
  exact rightlyOwned_of_run (fun r hr => by cases hr) hadmissible (List.prefix_refl _)

/-- The owner bans himself and stays on the channel. -/
theorem bannedOwner_isOn :
    ∃ c, Runs.run step (.absent none) [(pairWorld, 1, .joinChannel ""),
        (pairWorld, 2, .joinChannel ""), (pairWorld, 1, .kickOrBan "First" true)] = .present c ∧
      c.isOn 1 = true ∧ 1 ∈ c.bannedStore ∧ 1 ∉ c.joined ∧ ¬ RightlyOwned c := by
  refine ⟨_, rfl, by decide +kernel, by decide +kernel, by decide +kernel, fun hright => ?_⟩
  exact hright.notBanned 1 (by decide +kernel) (by decide +kernel)

end Cataclysm.Chat
