import Cataclysm.Players.CurrencyCaps

/-!
# Currency gains

A call writes the counts of its own currency and, when the currency is a meta conquest currency,
those of the conquest points. Both are read from the storage the call meets, so the change is exact
when the caps read there allow it. What the meta currency of the arenas passes on within a week then
stays within its week cap.

## Implementation notes

A record that spending opens keeps an unset week count.
-/

namespace Cataclysm.Currency

variable {realm : Realm} {unset : Unset} {storage : Storage} {currency : CurrencyTypesEntry}

/-! ### Reading a storage -/

namespace Storage

variable {storage' : Storage}

theorem find?_opening (storage : Storage) (unset : Unset) (id id' : Nat) :
    (storage.opening unset id).find? id' =
      if id' = id then some ((storage.find? id).getD (opened unset)) else storage.find? id' := by
  unfold opening
  cases hfind : storage.find? id with
  | none =>
    simp only [OrderedMap.find?_insert, Option.getD_none]
  | some record =>
    by_cases hsame : id' = id
    · rw [if_pos hsame, hsame, hfind]
      rfl
    · rw [if_neg hsame]

theorem totalCount_opening (storage : Storage) (unset : Unset) (id id' : Nat) :
    (storage.opening unset id).totalCount id' = storage.totalCount id' := by
  unfold totalCount
  rw [find?_opening]
  by_cases hsame : id' = id
  · rw [if_pos hsame, hsame]
    cases storage.find? id <;> rfl
  · rw [if_neg hsame]

/-- Only a missing record takes the unset week count. -/
theorem weekCount_opening (storage : Storage) (unset : Unset) (id id' : Nat) :
    (storage.opening unset id).weekCount id' =
      if id' = id ∧ storage.find? id = none then unset.weekCount else storage.weekCount id' := by
  unfold weekCount
  rw [find?_opening]
  by_cases hsame : id' = id
  · subst hsame
    cases storage.find? id' <;> simp [opened]
  · rw [if_neg hsame, if_neg fun h => hsame h.1]

/-- The storages hold the same week caps. -/
def SameCaps (storage storage' : Storage) : Prop :=
  ∀ id, (storage.find? id).map PlayerCurrency.weekCap = (storage'.find? id).map PlayerCurrency.weekCap

theorem SameCaps.getConquestWeekCap {storage : Storage} (h : SameCaps storage storage') (id : Nat) :
    storage.getConquestWeekCap id = storage'.getConquestWeekCap id := by
  unfold Storage.getConquestWeekCap
  rw [h id]

theorem SameCaps.opening {storage : Storage} (h : SameCaps storage storage') (unset : Unset)
    (id : Nat) : SameCaps (storage.opening unset id) (storage'.opening unset id) := by
  intro id'
  rw [find?_opening, find?_opening]
  by_cases hsame : id' = id
  · have hid := h id
    rw [if_pos hsame, if_pos hsame]
    cases hfind : storage.find? id <;> cases hfind' : storage'.find? id <;>
      simp_all
  · rw [if_neg hsame, if_neg hsame]
    exact h id'

theorem SameCaps.getCurrencyWeekCap {storage : Storage} (h : SameCaps storage storage')
    (realm : Realm) (currency : CurrencyTypesEntry) :
    realm.getCurrencyWeekCap storage currency = realm.getCurrencyWeekCap storage' currency := by
  unfold Realm.getCurrencyWeekCap
  simp only [h.getConquestWeekCap]

theorem getConquestWeekCap_range (storage : Storage) (id : Nat) :
    0 < storage.getConquestWeekCap id ∧ storage.getConquestWeekCap id < 400000 := by
  unfold getConquestWeekCap
  simp only
  split_ifs with hown
  · omega
  · decide
  · decide

end Storage

namespace Realm

theorem conquest_id (realm : Realm) : realm.conquest.id = conquestPoints :=
  (realm.lookupEntry_id _ _ realm.lookupEntry_conquest).1

theorem conquestWeekCap_range (realm : Realm) (storage : Storage) :
    0 < realm.getCurrencyWeekCap storage realm.conquest ∧
      realm.getCurrencyWeekCap storage realm.conquest < 400000 := by
  unfold getCurrencyWeekCap
  rw [if_pos realm.conquest_id]
  split
  · next arena rbg _ _ =>
      have harena := storage.getConquestWeekCap_range arena.id
      have hrbg := storage.getConquestWeekCap_range rbg.id
      omega
  · exact storage.getConquestWeekCap_range _

/-- The caps and the counts that a call for a currency meets. -/
def reading (realm : Realm) (unset : Unset) (storage : Storage) (currency : CurrencyTypesEntry) :
    Reading :=
  ⟨realm.getCurrencyWeekCap (storage.opening unset currency.id) currency,
    realm.getCurrencyTotalCap currency, storage.totalCount currency.id,
    storage.weekCount currency.id⟩

/-! ### What a call does to the storage -/

/-- A call in terms of what it reads. -/
theorem modifyRecord_eq (realm : Realm) (unset : Unset) (storage : Storage)
    (currency : CurrencyTypesEntry) (count : Int) :
    realm.modifyRecord unset storage currency false count =
      let r := realm.reading unset storage currency
      let counted := clampCount r.weekCap r.totalCap false count
      let counts := newCounts r.weekCap r.totalCap r.total r.week false counted
      let storage' := storage.opening unset currency.id
      if r.weekCap ≠ 0 ∧ r.weekCap = r.week ∧ 0 < count then (storage', none)
      else if uint32 counts.1 ≠ r.total then
        (storage'.insert currency.id
          (((storage'.find? currency.id).getD (opened unset)).modified currency false r.week
            counted counts), some counted)
      else (storage', none) := by
  unfold modifyRecord
  simp only [true_and]
  rfl

theorem modifyRecord_of_none {count : Int}
    (h : (realm.reading unset storage currency).written count = none) :
    realm.modifyRecord unset storage currency false count =
      (storage.opening unset currency.id, none) := by
  rw [modifyRecord_eq]
  unfold Reading.written at h
  simp only at h ⊢
  split_ifs at h with hfull hchanged
  · rw [if_pos hfull]
  · rw [if_neg hfull, if_neg hchanged]

theorem modifyRecord_of_some {count : Int} {counts : Nat × Nat}
    (h : (realm.reading unset storage currency).written count = some counts) :
    ∃ record, record.totalCount = counts.1 ∧ record.weekCount = counts.2 ∧
      record.weekCap = ((storage.find? currency.id).getD (opened unset)).weekCap ∧
      realm.modifyRecord unset storage currency false count =
        ((storage.opening unset currency.id).insert currency.id record,
          some (clampCount (realm.reading unset storage currency).weekCap
            (realm.reading unset storage currency).totalCap false count)) := by
  rw [modifyRecord_eq]
  unfold Reading.written at h
  simp only at h ⊢
  split_ifs at h with hfull hchanged
  obtain rfl := Option.some.inj h
  rw [if_neg hfull, if_pos hchanged]
  refine ⟨_, rfl, ?_, ?_, rfl⟩
  · rfl
  · unfold PlayerCurrency.modified
    simp only [Storage.find?_opening, if_true, Option.getD_some]

/-- What a call makes of the storage and what it passes on. -/
structure Called (realm : Realm) (unset : Unset) (storage : Storage)
    (currency : CurrencyTypesEntry) (count : Int) (after : Storage × Option Int) : Prop where
  other : ∀ id, id ≠ currency.id → after.1.find? id = storage.find? id
  total : after.1.totalCount currency.id = (realm.reading unset storage currency).totalAfter count
  week : after.1.weekCount currency.id =
    if (realm.reading unset storage currency).written count = none ∧
        storage.find? currency.id = none then unset.weekCount
    else (realm.reading unset storage currency).weekAfter count
  sameCaps : Storage.SameCaps after.1 (storage.opening unset currency.id)
  passed : after.2 = if (realm.reading unset storage currency).written count = none then none
    else some (clampCount (realm.reading unset storage currency).weekCap
      (realm.reading unset storage currency).totalCap false count)

theorem called_modifyRecord (realm : Realm) (unset : Unset) (storage : Storage)
    (currency : CurrencyTypesEntry) (count : Int) :
    Called realm unset storage currency count
      (realm.modifyRecord unset storage currency false count) := by
  cases hwritten : (realm.reading unset storage currency).written count with
  | none =>
    rw [modifyRecord_of_none hwritten]
    constructor
    · intro id hid
      rw [Storage.find?_opening, if_neg hid]
    · unfold Reading.totalAfter
      rw [Storage.totalCount_opening, hwritten]
      rfl
    · unfold Reading.weekAfter
      rw [Storage.weekCount_opening, hwritten]
      simp only [true_and]
      rfl
    · exact fun _ => rfl
    · rw [if_pos hwritten]
  | some counts =>
    obtain ⟨record, htotal, hweek, hcap, heq⟩ := modifyRecord_of_some hwritten
    have hsome : (realm.reading unset storage currency).written count ≠ none := by
      rw [hwritten]
      exact Option.some_ne_none _
    rw [heq]
    constructor
    · intro id hid
      rw [OrderedMap.find?_insert, if_neg hid, Storage.find?_opening, if_neg hid]
    · unfold Storage.totalCount Reading.totalAfter
      rw [OrderedMap.find?_insert, if_pos rfl, hwritten]
      exact htotal
    · unfold Storage.weekCount Reading.weekAfter
      rw [OrderedMap.find?_insert, if_pos rfl, if_neg fun h => hsome h.1, hwritten]
      exact hweek
    · intro id
      rw [OrderedMap.find?_insert, Storage.find?_opening]
      by_cases hid : id = currency.id
      · rw [if_pos hid, if_pos hid]
        exact congrArg some hcap
      · rw [if_neg hid, if_neg hid]
    · rw [if_neg hsome]

end Realm

/-! ### Exact changes -/

variable {storage' : Storage} {count : Int}

/-- What auras that leave a count as it is make of it. -/
def noAuras : Nat → Int → Int := fun _ count => count

/-- The conquest points as a meta conquest currency meets them when it passes a count on. -/
def conquestReading (realm : Realm) (unset : Nat → Unset) (storage : Storage)
    (currency : CurrencyTypesEntry) : Reading :=
  realm.reading (unset conquestPoints) (storage.opening (unset currency.id) currency.id)
    realm.conquest

/-- The caps and the counts fit, for the currency and for the points it is passed on to. -/
structure InRange (realm : Realm) (unset : Nat → Unset) (storage : Storage)
    (currency : CurrencyTypesEntry) (count : Int) : Prop where
  known : realm.lookupEntry currency.id = some currency
  own : (realm.reading (unset currency.id) storage currency).Valid count
  conquest : currency.category = categoryMetaConquest →
    (conquestReading realm unset storage currency).Valid count

/-- The counts change exactly, and conquest points are credited at most what the meta currency
is. -/
structure ChangesExactly (realm : Realm) (unset : Nat → Unset) (storage storage' : Storage)
    (currency : CurrencyTypesEntry) (count : Int) : Prop where
  own : (realm.reading (unset currency.id) storage currency).Exact count
    (storage'.totalCount currency.id) (storage'.weekCount currency.id)
  conquest : currency.category = categoryMetaConquest →
    storage'.totalCount conquestPoints - storage.totalCount conquestPoints ≤
      storage'.totalCount currency.id - storage.totalCount currency.id

/-- The caps leave room for the count, and no less of it to the meta currency than to the conquest
points; a record that spending opens has a zero week count. -/
def MeetsCaps (realm : Realm) (unset : Nat → Unset) (storage : Storage)
    (currency : CurrencyTypesEntry) (count : Int) : Prop :=
  let r := realm.reading (unset currency.id) storage currency
  (0 < count → r.GainFits count.natAbs) ∧
  (count < 0 → r.SpendingFits count.natAbs ∧
    (storage.find? currency.id = none → (unset currency.id).weekCount = 0)) ∧
  (currency.category = categoryMetaConquest → 0 < count → r.Full ∨ r.AtCap ∨
    (conquestReading realm unset storage currency).room (r.clamped count.natAbs) ≤
      r.room count.natAbs)

theorem InRange.conquest_ne {unset : Nat → Unset} (h : InRange realm unset storage currency count)
    (hmeta : currency.category = categoryMetaConquest) : currency.id ≠ conquestPoints := by
  intro hid
  have hknown := h.known
  rw [hid, realm.lookupEntry_conquest] at hknown
  obtain rfl := Option.some.inj hknown
  exact realm.conquest_category hmeta

theorem totalCount_of_find? {storage : Storage} {id : Nat}
    (h : storage'.find? id = storage.find? id) :
    storage'.totalCount id = storage.totalCount id := by
  unfold Storage.totalCount
  rw [h]

theorem weekCount_of_find? {storage : Storage} {id : Nat}
    (h : storage'.find? id = storage.find? id) : storage'.weekCount id = storage.weekCount id := by
  unfold Storage.weekCount
  rw [h]

/-- The points are read as they were before the call. -/
theorem reading_conquest {unset : Nat → Unset} {after : Storage × Option Int}
    (h : Realm.Called realm (unset currency.id) storage currency count after)
    (hne : currency.id ≠ conquestPoints) :
    realm.reading (unset conquestPoints) after.1 realm.conquest =
      conquestReading realm unset storage currency := by
  have hfind : after.1.find? realm.conquest.id = storage.find? realm.conquest.id :=
    h.other _ (by rw [realm.conquest_id]; exact hne.symm)
  have hcap := (h.sameCaps.opening (unset conquestPoints) realm.conquest.id).getCurrencyWeekCap
    realm realm.conquest
  have hfind' : (storage.opening (unset currency.id) currency.id).find? realm.conquest.id =
      storage.find? realm.conquest.id := by
    rw [Storage.find?_opening, if_neg (by rw [realm.conquest_id]; exact hne.symm)]
  unfold conquestReading Realm.reading
  rw [hcap, totalCount_of_find? (hfind.trans hfind'.symm),
    weekCount_of_find? (hfind.trans hfind'.symm)]

/-- A call for a known currency, with its passing on to the conquest points. -/
theorem modifyCurrency_known (unset : Nat → Unset) (storage : Storage)
    (hknown : realm.lookupEntry currency.id = some currency) (hcount : count ≠ 0)
    (ignoreMultipliers : Bool) {passed : Option Int}
    (hcall : realm.modifyRecord (unset currency.id) storage currency false count =
      (storage', passed)) :
    realm.modifyCurrency unset noAuras storage currency.id count ignoreMultipliers false =
      some (passed.elim storage' fun count =>
        if currency.category = categoryMetaConquest ∧ count ≠ 0 then
          (realm.modifyRecord (unset conquestPoints) storage' realm.conquest false count).1
        else storage') := by
  unfold Realm.modifyCurrency
  have hentry : realm.modifyEntry unset noAuras storage currency ignoreMultipliers false count =
      (storage', passed) := by
    unfold Realm.modifyEntry
    rw [if_neg hcount, ← hcall]
    unfold noAuras
    rw [ite_self]
  rw [if_neg hcount, hknown, Option.map_some, hentry]
  cases passed with
  | none => rfl
  | some count =>
    simp only [Option.elim_some]
    by_cases hmeta : currency.category = categoryMetaConquest
    · rw [if_pos hmeta]
      unfold Realm.modifyEntry noAuras
      rw [ite_self, realm.conquest_id]
      by_cases hzero : count = 0
      · rw [if_pos hzero, if_neg fun h => h.2 hzero]
      · rw [if_neg hzero, if_pos ⟨hmeta, hzero⟩]
    · rw [if_neg hmeta, if_neg fun h => hmeta h.1]

/-- What `ModifyCurrency` makes of the storage. -/
structure Modified (realm : Realm) (unset : Nat → Unset) (storage : Storage)
    (currency : CurrencyTypesEntry) (count : Int) (storage' : Storage) : Prop where
  other : ∀ id, id ≠ currency.id →
    (currency.category = categoryMetaConquest → id ≠ conquestPoints) →
    storage'.find? id = storage.find? id
  total : storage'.totalCount currency.id =
    (realm.reading (unset currency.id) storage currency).totalAfter count
  week : storage'.weekCount currency.id =
    if (realm.reading (unset currency.id) storage currency).written count = none ∧
        storage.find? currency.id = none then (unset currency.id).weekCount
    else (realm.reading (unset currency.id) storage currency).weekAfter count
  cap : storage'.getConquestWeekCap currency.id =
    (storage.opening (unset currency.id) currency.id).getConquestWeekCap currency.id
  conquest : currency.category = categoryMetaConquest →
    storage'.totalCount conquestPoints =
      if (realm.reading (unset currency.id) storage currency).written count = none then
        storage.totalCount conquestPoints
      else (conquestReading realm unset storage currency).totalAfter
        (clampCount (realm.reading (unset currency.id) storage currency).weekCap
          (realm.reading (unset currency.id) storage currency).totalCap false count)

theorem clampCount_ne_zero {r : Reading} (h : r.Valid count) (hcount : count ≠ 0) :
    clampCount r.weekCap r.totalCap false count ≠ 0 := by
  by_cases hpos : 0 < count
  · obtain ⟨n, rfl⟩ := Int.eq_ofNat_of_zero_le hpos.le
    rw [Reading.clampCount_gain h]
    have hclamped : 0 < r.clamped n := Reading.clamped_pos (Int.natCast_pos.mp hpos)
    omega
  · rw [Reading.clampCount_spending h (not_lt.mp hpos)]
    exact hcount

theorem modifyCurrency_modified {unset : Nat → Unset}
    (h : InRange realm unset storage currency count) (hcount : count ≠ 0)
    (ignoreMultipliers : Bool) :
    ∃ storage', realm.modifyCurrency unset noAuras storage currency.id count ignoreMultipliers
        false = some storage' ∧ Modified realm unset storage currency count storage' := by
  set r := realm.reading (unset currency.id) storage currency with hr
  have hcalled := Realm.called_modifyRecord realm (unset currency.id) storage currency count
  have hcall := modifyCurrency_known unset storage h.known hcount ignoreMultipliers (Prod.mk.eta).symm
  refine ⟨_, hcall, ?_⟩
  have hcaps := hcalled.sameCaps.getConquestWeekCap currency.id
  rw [hcalled.passed]
  by_cases hnone : r.written count = none
  · rw [if_pos hnone]
    exact ⟨fun id hid _ => hcalled.other id hid, hcalled.total, hcalled.week, hcaps,
      fun hmeta => by
        rw [if_pos hnone]
        exact totalCount_of_find? (hcalled.other _ (h.conquest_ne hmeta).symm)⟩
  · rw [if_neg hnone, Option.elim_some]
    have hclamp := clampCount_ne_zero h.own hcount
    by_cases hmeta : currency.category = categoryMetaConquest
    · have hne := h.conquest_ne hmeta
      rw [if_pos ⟨hmeta, hclamp⟩]
      have hnested := Realm.called_modifyRecord realm (unset conquestPoints)
        (realm.modifyRecord (unset currency.id) storage currency false count).1 realm.conquest
        (clampCount r.weekCap r.totalCap false count)
      have hown := hnested.other currency.id (by rw [realm.conquest_id]; exact hne)
      constructor
      · intro id hid hpoints
        rw [hnested.other id (by rw [realm.conquest_id]; exact hpoints hmeta), hcalled.other id hid]
      · rw [totalCount_of_find? hown, hcalled.total]
      · rw [weekCount_of_find? hown, hcalled.week]
      · rw [← hcaps]
        unfold Storage.getConquestWeekCap
        rw [hown]
      · intro _
        have htotal := hnested.total
        rw [realm.conquest_id, reading_conquest hcalled hne] at htotal
        rw [if_neg hnone, htotal]
    · rw [if_neg fun hno => hmeta hno.1]
      exact ⟨fun id hid _ => hcalled.other id hid, hcalled.total, hcalled.week, hcaps,
        fun hno => absurd hno hmeta⟩

theorem reading_of_missing (h : storage.find? currency.id = none) :
    (realm.reading unset storage currency).total = 0 ∧
      (realm.reading unset storage currency).week = 0 := by
  unfold Realm.reading Storage.totalCount Storage.weekCount
  rw [h]
  exact ⟨rfl, rfl⟩

/-- A gain always writes a record that it opens. -/
theorem gain_opens {count : Nat} (h : (realm.reading unset storage currency).Valid count)
    (hpos : 0 < count) (hmissing : storage.find? currency.id = none) :
    (realm.reading unset storage currency).written count ≠ none := by
  have hreading : (realm.reading unset storage currency).total = 0 ∧
      (realm.reading unset storage currency).week = 0 := reading_of_missing hmissing
  obtain ⟨htotal, hweek⟩ := hreading
  intro hnone
  rcases (Reading.written_eq_none_iff h hpos).mp hnone with ⟨hcap, hfull⟩ | ⟨hcap, hfull⟩
  · exact hcap (hfull.trans hweek)
  · exact hcap (hfull.symm.trans htotal)

/-- Conquest points always have a small week cap, so their week count does not overflow. -/
theorem conquest_inRange {unset : Nat → Unset} {count : Nat}
    (h : (conquestReading realm unset storage currency).Valid count) :
    (conquestReading realm unset storage currency).week +
      (conquestReading realm unset storage currency).clamped count < 2 ^ 31 := by
  have hrange : 0 < (conquestReading realm unset storage currency).weekCap ∧
      (conquestReading realm unset storage currency).weekCap < 400000 :=
    realm.conquestWeekCap_range _
  have hle := h.week_le
  unfold Reading.clamped
  simp only
  split_ifs <;> omega

theorem conquestReading_total {unset : Nat → Unset}
    (h : InRange realm unset storage currency count)
    (hmeta : currency.category = categoryMetaConquest) :
    (conquestReading realm unset storage currency).total = storage.totalCount conquestPoints := by
  have hne := h.conquest_ne hmeta
  unfold conquestReading Realm.reading
  simp only
  rw [realm.conquest_id, Storage.totalCount_opening]

section Exactness

variable {unset : Nat → Unset} {storage' : Storage}

theorem exact_gain_iff {count : Nat} (h : InRange realm unset storage currency count)
    (hpos : 0 < count) (hmodified : Modified realm unset storage currency count storage') :
    (realm.reading (unset currency.id) storage currency).Exact count
        (storage'.totalCount currency.id) (storage'.weekCount currency.id) ↔
      (realm.reading (unset currency.id) storage currency).GainFits count := by
  rw [hmodified.total, hmodified.week, if_neg fun hno => gain_opens h.own hpos hno.2 hno.1]
  exact Reading.exact_gain_iff h.own hpos

theorem exact_spending_iff {count : Nat} (h : InRange realm unset storage currency (-count))
    (hpos : 0 < count) (hmodified : Modified realm unset storage currency (-count) storage') :
    (realm.reading (unset currency.id) storage currency).Exact (-count)
        (storage'.totalCount currency.id) (storage'.weekCount currency.id) ↔
      (realm.reading (unset currency.id) storage currency).SpendingFits count ∧
        (storage.find? currency.id = none → (unset currency.id).weekCount = 0) := by
  have hiff := Reading.exact_spending_iff h.own hpos
  rw [hmodified.total, hmodified.week]
  by_cases hmissing : storage.find? currency.id = none
  · have hreading : (realm.reading (unset currency.id) storage currency).total = 0 ∧
        (realm.reading (unset currency.id) storage currency).week = 0 :=
      reading_of_missing hmissing
    obtain ⟨htotal, hweek⟩ := hreading
    obtain ⟨total, week, hwritten, hvalues⟩ := Reading.written_spending h.own
    have hzero : total = 0 := by
      split_ifs at hvalues <;> omega
    rw [hzero, if_pos htotal.symm] at hwritten
    have hafter : (realm.reading (unset currency.id) storage currency).totalAfter (-count) = 0 := by
      unfold Reading.totalAfter
      rw [hwritten]
      exact htotal
    rw [if_pos ⟨hwritten, hmissing⟩, hafter, Reading.exact_spending hpos, htotal, hweek]
    unfold Reading.SpendingFits
    rw [htotal]
    constructor
    · rintro ⟨-, -, -, hkept, -⟩
      exact ⟨⟨.inr (by omega), .inl rfl⟩, fun _ => hkept⟩
    · rintro ⟨-, hkept⟩
      have hunset := hkept hmissing
      exact ⟨fun _ => Nat.zero_le _, by decide, fun _ => by omega, hunset, by omega⟩
  · rw [if_neg fun hno => hmissing hno.2, hiff]
    exact ⟨fun hfits => ⟨hfits, fun hno => absurd hno hmissing⟩, fun hfits => hfits.1⟩

/-- The meta currency is credited no less than the points exactly when its caps leave no less. -/
theorem conquest_gain_iff {count : Nat} (h : InRange realm unset storage currency count)
    (hpos : 0 < count) (hmodified : Modified realm unset storage currency count storage')
    (hfits : (realm.reading (unset currency.id) storage currency).GainFits count)
    (hmeta : currency.category = categoryMetaConquest) :
    (storage'.totalCount conquestPoints - storage.totalCount conquestPoints ≤
        storage'.totalCount currency.id - storage.totalCount currency.id) ↔
      (realm.reading (unset currency.id) storage currency).Full ∨
        (realm.reading (unset currency.id) storage currency).AtCap ∨
        (conquestReading realm unset storage currency).room
            ((realm.reading (unset currency.id) storage currency).clamped count) ≤
          (realm.reading (unset currency.id) storage currency).room count := by
  set r := realm.reading (unset currency.id) storage currency with hr
  have hcredit : storage'.totalCount currency.id - storage.totalCount currency.id =
      r.room count := by
    rw [hmodified.total]
    exact Reading.credit_of_gainFits h.own hpos hfits
  rw [hcredit, hmodified.conquest hmeta]
  by_cases hnone : r.written count = none
  · rw [if_pos hnone, Nat.sub_self]
    have hreached := (Reading.written_eq_none_iff h.own hpos).mp hnone
    exact ⟨fun _ => hreached.imp_right .inl, fun _ => Nat.zero_le _⟩
  · have hvalid := h.conquest hmeta
    have hclamped := hvalid.mono (r.clamped_le count)
    rw [if_neg hnone, Reading.clampCount_gain h.own]
    have hpoints : (conquestReading realm unset storage currency).totalAfter (r.clamped count) -
        storage.totalCount conquestPoints =
          (conquestReading realm unset storage currency).room (r.clamped count) := by
      rw [← conquestReading_total h hmeta]
      exact Reading.credit_of_range hclamped (Reading.clamped_pos hpos)
        (conquest_inRange hclamped)
    rw [hpoints]
    have hreached := mt (Reading.written_eq_none_iff h.own hpos).mpr hnone
    exact ⟨fun hle => .inr (.inr hle), fun hle => by
      rcases hle with hfull | hcap | hle
      · exact absurd (.inl hfull) hreached
      · exact absurd (.inr hcap) hreached
      · exact hle⟩

theorem changesExactly_of_zero (h : InRange realm unset storage currency count)
    (hzero : count = 0) : ChangesExactly realm unset storage storage currency count := by
  subst hzero
  refine ⟨⟨fun _ => le_max_left _ _, ?_, h.own.week_le, ?_, fun hneg => absurd hneg (lt_irrefl _)⟩,
    fun _ => by rw [Nat.sub_self]; exact Nat.zero_le _⟩
  · exact lt_of_le_of_lt (Nat.le_add_right _ _) h.own.total_lt
  · rw [if_neg (lt_irrefl _)]
    exact sub_self _

theorem meetsCaps_gain_iff {count : Nat} (hpos : 0 < count) :
    MeetsCaps realm unset storage currency count ↔
      (realm.reading (unset currency.id) storage currency).GainFits count ∧
        (currency.category = categoryMetaConquest →
          (realm.reading (unset currency.id) storage currency).Full ∨
          (realm.reading (unset currency.id) storage currency).AtCap ∨
          (conquestReading realm unset storage currency).room
              ((realm.reading (unset currency.id) storage currency).clamped count) ≤
            (realm.reading (unset currency.id) storage currency).room count) := by
  have hcast : (0 : Int) < count := Int.natCast_pos.mpr hpos
  unfold MeetsCaps
  simp only [Int.natAbs_natCast]
  constructor
  · exact fun h => ⟨h.1 hcast, fun hmeta => h.2.2 hmeta hcast⟩
  · exact fun h => ⟨fun _ => h.1, fun hneg => absurd hneg (not_lt.mpr hcast.le),
      fun hmeta _ => h.2 hmeta⟩

theorem meetsCaps_spending_iff {count : Nat} (hpos : 0 < count) :
    MeetsCaps realm unset storage currency (-count) ↔
      (realm.reading (unset currency.id) storage currency).SpendingFits count ∧
        (storage.find? currency.id = none → (unset currency.id).weekCount = 0) := by
  have hneg : -(count : Int) < 0 := Int.neg_neg_of_pos (Int.natCast_pos.mpr hpos)
  unfold MeetsCaps
  simp only [Int.natAbs_neg, Int.natAbs_natCast]
  constructor
  · exact fun h => h.2.1 hneg
  · exact fun h => ⟨fun hgain => absurd hgain (not_lt.mpr hneg.le), fun _ => h,
      fun _ hgain => absurd hgain (not_lt.mpr hneg.le)⟩

/-- Conquest points are credited nothing when the meta currency is spent. -/
theorem conquest_spending {count : Nat} (h : InRange realm unset storage currency (-count))
    (hmodified : Modified realm unset storage currency (-count) storage')
    (hmeta : currency.category = categoryMetaConquest) :
    storage'.totalCount conquestPoints - storage.totalCount conquestPoints = 0 := by
  rw [hmodified.conquest hmeta]
  split_ifs
  · exact Nat.sub_self _
  · rw [Reading.clampCount_spending h.own (by omega), ← conquestReading_total h hmeta]
    exact Nat.sub_eq_zero_of_le (Reading.totalAfter_spending_le (h.conquest hmeta))

/-- A call changes the counts exactly when the caps it meets allow that. -/
theorem changesExactly_iff (h : InRange realm unset storage currency count)
    (ignoreMultipliers : Bool) :
    ∃ storage', realm.modifyCurrency unset noAuras storage currency.id count ignoreMultipliers
        false = some storage' ∧
      (ChangesExactly realm unset storage storage' currency count ↔
        MeetsCaps realm unset storage currency count) := by
  by_cases hzero : count = 0
  · refine ⟨storage, if_pos hzero, fun _ => ?_, fun _ => changesExactly_of_zero h hzero⟩
    subst hzero
    exact ⟨fun hpos => absurd hpos (lt_irrefl _), fun hneg => absurd hneg (lt_irrefl _),
      fun _ hpos => absurd hpos (lt_irrefl _)⟩
  · obtain ⟨storage', hcall, hmodified⟩ := modifyCurrency_modified h hzero ignoreMultipliers
    refine ⟨storage', hcall, ?_⟩
    by_cases hgain : 0 < count
    · obtain ⟨n, rfl⟩ := Int.eq_ofNat_of_zero_le hgain.le
      have hpos : 0 < n := Int.natCast_pos.mp hgain
      rw [meetsCaps_gain_iff hpos]
      constructor
      · rintro ⟨hown, hconquest⟩
        have hfits := (exact_gain_iff h hpos hmodified).mp hown
        exact ⟨hfits, fun hmeta =>
          (conquest_gain_iff h hpos hmodified hfits hmeta).mp (hconquest hmeta)⟩
      · rintro ⟨hfits, hroom⟩
        exact ⟨(exact_gain_iff h hpos hmodified).mpr hfits, fun hmeta =>
          (conquest_gain_iff h hpos hmodified hfits hmeta).mpr (hroom hmeta)⟩
    · obtain ⟨n, hn⟩ := Int.eq_ofNat_of_zero_le (by omega : 0 ≤ -count)
      obtain rfl : count = -(n : Int) := by rw [← hn, neg_neg]
      have hpos : 0 < n := by omega
      rw [meetsCaps_spending_iff hpos, ← exact_spending_iff h hpos hmodified]
      exact ⟨fun hchanges => hchanges.own, fun hown => ⟨hown, fun hmeta => by
        rw [conquest_spending h hmodified hmeta]
        exact Nat.zero_le _⟩⟩

end Exactness

/-! ### A week of gains -/

variable {credited : Nat}

/-- A gain of a currency, with what a record that it opens leaves unset. -/
structure Gain where
  currency : CurrencyTypesEntry
  count : Int
  unset : Nat → Unset

/-- The storage after a gain. -/
def gain (realm : Realm) (storage : Storage) (g : Gain) : Storage :=
  (realm.modifyCurrency g.unset noAuras storage g.currency.id g.count false false).getD storage

/-- A gain in range whose caps leave room for it. -/
def Allowed (realm : Realm) (storage : Storage) (g : Gain) : Prop :=
  0 < g.count ∧ InRange realm g.unset storage g.currency g.count ∧
    MeetsCaps realm g.unset storage g.currency g.count

/-- The conquest points that a gain credits from arenas. -/
def arenaCredit (realm : Realm) (storage : Storage) (g : Gain) : Nat :=
  if g.currency.id = conquestMetaArena then
    (gain realm storage g).totalCount conquestPoints - storage.totalCount conquestPoints
  else 0

/-- The points credited so far are covered by the week count of the arenas, which is within its
cap. -/
def Covered (storage : Storage) (credited : Nat) : Prop :=
  credited = 0 ∨ (credited ≤ storage.weekCount conquestMetaArena ∧
    storage.weekCount conquestMetaArena ≤ storage.getConquestWeekCap conquestMetaArena)

theorem gain_eq {g : Gain}
    (h : realm.modifyCurrency g.unset noAuras storage g.currency.id g.count false false =
      some storage') : gain realm storage g = storage' := by
  unfold gain
  rw [h]
  rfl

/-- A gain that is not of the arenas leaves their record. -/
theorem Covered.other {g : Gain} (h : Covered storage credited)
    (hallowed : Allowed realm storage g) (hid : g.currency.id ≠ conquestMetaArena) :
    Covered (gain realm storage g) (credited + arenaCredit realm storage g) := by
  obtain ⟨hpos, hrange, -⟩ := hallowed
  obtain ⟨storage', hcall, hmodified⟩ := modifyCurrency_modified hrange hpos.ne' false
  have hfind : storage'.find? conquestMetaArena = storage.find? conquestMetaArena :=
    hmodified.other _ hid.symm fun _ => by decide
  unfold arenaCredit
  rw [if_neg hid, gain_eq hcall, add_zero]
  unfold Covered Storage.getConquestWeekCap at *
  rw [weekCount_of_find? hfind, hfind]
  exact h

/-- What an arena gain credits is counted in the week. -/
theorem arenaCredit_le {g : Gain} (hallowed : Allowed realm storage g)
    (hid : g.currency.id = conquestMetaArena) :
    storage.weekCount conquestMetaArena + arenaCredit realm storage g ≤
        (gain realm storage g).weekCount conquestMetaArena ∧
      (gain realm storage g).weekCount conquestMetaArena ≤
        (gain realm storage g).getConquestWeekCap conquestMetaArena := by
  obtain ⟨hpos, hrange, hmeets⟩ := hallowed
  obtain ⟨n, hn⟩ := Int.eq_ofNat_of_zero_le hpos.le
  have hn0 : 0 < n := by omega
  rw [hn] at hrange hmeets
  obtain ⟨storage', hcall, hmodified⟩ := modifyCurrency_modified hrange (by omega) false
  rw [← hn] at hcall
  obtain ⟨hfits, hroom⟩ := (meetsCaps_gain_iff hn0).mp hmeets
  have hown := (exact_gain_iff hrange hn0 hmodified).mpr hfits
  set r := realm.reading (g.unset g.currency.id) storage g.currency with hr
  have hcap : r.weekCap = storage'.getConquestWeekCap g.currency.id := by
    rw [hmodified.cap, hr]
    unfold Realm.reading Realm.getCurrencyWeekCap
    rw [if_neg (by rw [hid]; decide), if_pos (.inl hid)]
  have hcap0 : r.weekCap ≠ 0 := by
    rw [hcap]
    exact (storage'.getConquestWeekCap_range _).1.ne'
  have hcredit : arenaCredit realm storage g ≤
      storage'.totalCount g.currency.id - storage.totalCount g.currency.id := by
    unfold arenaCredit
    rw [if_pos hid, gain_eq hcall]
    by_cases hmeta : g.currency.category = categoryMetaConquest
    · exact (conquest_gain_iff hrange hn0 hmodified hfits hmeta).mpr (hroom hmeta)
    · rw [totalCount_of_find? (hmodified.other _ (by rw [hid]; decide) fun hno =>
        absurd hno hmeta), Nat.sub_self]
      exact Nat.zero_le _
  have hraised : storage.totalCount g.currency.id ≤ storage'.totalCount g.currency.id := by
    rw [hmodified.total]
    exact Reading.le_totalAfter hrange.own hn0 hcap0 hfits
  have hweek := hown.week_gained
  rw [if_pos (Int.natCast_pos.mpr hn0)] at hweek
  have hweekLe := hown.week_le hcap0
  have hweekBefore : r.week = storage.weekCount g.currency.id := rfl
  have htotalBefore : r.total = storage.totalCount g.currency.id := rfl
  rw [gain_eq hcall, ← hid]
  omega

/-- One gain keeps the points from arenas covered. -/
theorem Covered.gain {g : Gain} (h : Covered storage credited)
    (hallowed : Allowed realm storage g) :
    Covered (gain realm storage g) (credited + arenaCredit realm storage g) := by
  by_cases hid : g.currency.id = conquestMetaArena
  · obtain ⟨hcounted, hcap⟩ := arenaCredit_le hallowed hid
    refine .inr ⟨?_, hcap⟩
    rcases h with rfl | ⟨hle, -⟩
    · omega
    · omega
  · exact h.other hallowed hid

theorem covered_run {gains : List Gain} (h : Covered storage credited)
    (hallowed : Runs.Admissible (gain realm) (Allowed realm) storage gains) :
    Covered (Runs.run (gain realm) storage gains)
      (credited + Runs.tally (gain realm) (arenaCredit realm) storage gains) := by
  induction gains generalizing storage credited with
  | nil => exact h
  | cons g rest ih =>
    have hnext := ih (h.gain hallowed.1) hallowed.2
    rw [Runs.run_cons, Runs.tally, ← add_assoc]
    exact hnext

/-- A call changes the counts exactly when the caps it meets allow that, and gains that they allow
credit no more conquest points from arenas than the arena week cap. -/
theorem exact_iff_meetsCaps (realm : Realm) :
    (∀ unset storage currency count ignoreMultipliers,
      InRange realm unset storage currency count →
      ∃ storage', realm.modifyCurrency unset noAuras storage currency.id count ignoreMultipliers
          false = some storage' ∧
        (ChangesExactly realm unset storage storage' currency count ↔
          MeetsCaps realm unset storage currency count)) ∧
    (∀ storage gains, Runs.Admissible (gain realm) (Allowed realm) storage gains →
      Runs.tally (gain realm) (arenaCredit realm) storage gains ≤
        (Runs.run (gain realm) storage gains).getConquestWeekCap conquestMetaArena) := by
  refine ⟨fun _ _ _ _ ignoreMultipliers h => changesExactly_iff h ignoreMultipliers, ?_⟩
  intro storage gains hallowed
  have hcovered := covered_run (.inl rfl) hallowed
  rw [zero_add] at hcovered
  rcases hcovered with hzero | ⟨hle, hcap⟩
  · rw [hzero]
    exact Nat.zero_le _
  · exact hle.trans hcap

/-- Justice points near their cap, and arena points near their week cap. -/
def nearCaps : Storage :=
  ((OrderedMap.empty.insert 395 ⟨.unchanged, 399900, 500, 0, 0⟩).insert 483
    ⟨.unchanged, 130000, 130000, 135000, 0⟩).insert 390 ⟨.unchanged, 130000, 130000, 165000, 0⟩

/-- A gain of arena points. -/
def arenaGain (count : Int) : Gain := ⟨⟨483, 89, 0, 0, 0x8⟩, count, fun _ => ⟨0, 0⟩⟩

/-- A gain of justice points that their caps allow, and two arena wins within the week cap. -/
theorem changesExactly_smallGains :
    (InRange smallRealm (fun _ => ⟨0, 0⟩) nearCaps ⟨395, 2, 400000, 0, 0x8⟩ 100 ∧
      ∃ storage', smallRealm.modifyCurrency (fun _ => ⟨0, 0⟩) noAuras nearCaps 395 100 false false =
          some storage' ∧
        (ChangesExactly smallRealm (fun _ => ⟨0, 0⟩) nearCaps storage'
            ⟨395, 2, 400000, 0, 0x8⟩ 100 ↔
          MeetsCaps smallRealm (fun _ => ⟨0, 0⟩) nearCaps ⟨395, 2, 400000, 0, 0x8⟩ 100)) ∧
    Runs.tally (gain smallRealm) (arenaCredit smallRealm) nearCaps
        [arenaGain 2000, arenaGain 1500] ≤
      (Runs.run (gain smallRealm) nearCaps
        [arenaGain 2000, arenaGain 1500]).getConquestWeekCap conquestMetaArena := by
  have hrange : InRange smallRealm (fun _ => ⟨0, 0⟩) nearCaps ⟨395, 2, 400000, 0, 0x8⟩ 100 :=
    ⟨rfl, by decide +kernel, fun hno => absurd hno (by decide)⟩
  have hallowed : Runs.Admissible (gain smallRealm) (Allowed smallRealm) nearCaps
      [arenaGain 2000, arenaGain 1500] := by
    refine ⟨⟨by decide, ⟨rfl, ?_, fun _ => ?_⟩, fun _ => ?_, fun hneg => ?_, ?_⟩,
      ⟨by decide, ⟨rfl, ?_, fun _ => ?_⟩, fun _ => ?_, fun hneg => ?_, ?_⟩, trivial⟩
    · decide +kernel
    · decide +kernel
    · decide +kernel
    · exact absurd hneg (by decide)
    · decide +kernel
    · decide +kernel
    · decide +kernel
    · decide +kernel
    · exact absurd hneg (by decide)
    · decide +kernel
  exact ⟨⟨hrange, (exact_iff_meetsCaps smallRealm).1 _ _ _ _ false hrange⟩,
    (exact_iff_meetsCaps smallRealm).2 _ _ hallowed⟩

/-- Justice points that reach their cap lose their week count, and an arena win is credited to the
conquest points beyond the arena week cap. -/
theorem cappedGains_inexact :
    (InRange smallRealm (fun _ => ⟨0, 0⟩) nearCaps ⟨395, 2, 400000, 0, 0x8⟩ 500 ∧
      ∃ storage', smallRealm.modifyCurrency (fun _ => ⟨0, 0⟩) noAuras nearCaps 395 500 false false =
          some storage' ∧
        ¬ ChangesExactly smallRealm (fun _ => ⟨0, 0⟩) nearCaps storage'
          ⟨395, 2, 400000, 0, 0x8⟩ 500) ∧
    (InRange smallRealm (fun _ => ⟨0, 0⟩) nearCaps ⟨483, 89, 0, 0, 0x8⟩ 18000 ∧
      ∃ storage', smallRealm.modifyCurrency (fun _ => ⟨0, 0⟩) noAuras nearCaps 483 18000 false
          false = some storage' ∧
        ¬ ChangesExactly smallRealm (fun _ => ⟨0, 0⟩) nearCaps storage'
          ⟨483, 89, 0, 0, 0x8⟩ 18000) := by
  refine ⟨⟨⟨rfl, ?_, fun hno => absurd hno (by decide)⟩, _, rfl, fun h => ?_⟩,
    ⟨rfl, ?_, fun _ => ?_⟩, _, rfl, fun h => ?_⟩
  · decide +kernel
  · have hweek := h.own.week_gained
    revert hweek
    decide +kernel
  · decide +kernel
  · decide +kernel
  · have hconquest := h.conquest rfl
    revert hconquest
    decide +kernel

end Cataclysm.Currency
