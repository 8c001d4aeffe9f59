import Cataclysm.Lib.OrderedMap
import Cataclysm.Players.Money

/-!
# Currencies

A player keeps, for each currency, a total, what was gained this week and what was gained this
season. `ModifyCurrency` clamps a count by the week cap and by the total cap of the currency; a
change of a meta conquest currency is passed on to the conquest points.

## Implementation notes

A record is opened with two fields unset: they are read from a parameter, as is what the auras make
of a count. Conquest points are not a meta currency, so passing on happens once.
-/

namespace Cataclysm.Currency

/-- `PlayerCurrencyState`. -/
inductive PlayerCurrencyState
  | unchanged
  | changed
  | new
  deriving DecidableEq

/-- `PlayerCurrency`. -/
structure PlayerCurrency where
  state : PlayerCurrencyState
  totalCount : Nat
  weekCount : Nat
  weekCap : Nat
  seasonalCap : Nat
  deriving DecidableEq

/-- `_currencyStorage`. -/
abbrev Storage := OrderedMap Nat PlayerCurrency

/-- `CurrencyTypesEntry`. -/
structure CurrencyTypesEntry where
  id : Nat
  category : Nat
  totalCap : Nat
  weekCap : Nat
  flags : Nat
  deriving DecidableEq

/-- `CURRENCY_TYPE_CONQUEST_POINTS`. -/
def conquestPoints : Nat := 390

/-- `CURRENCY_TYPE_CONQUEST_META_ARENA`. -/
def conquestMetaArena : Nat := 483

/-- `CURRENCY_TYPE_CONQUEST_META_RBG`. -/
def conquestMetaRbg : Nat := 484

/-- `CURRENCY_TYPE_HONOR_POINTS`. -/
def honorPoints : Nat := 392

/-- `CURRENCY_TYPE_JUSTICE_POINTS`. -/
def justicePoints : Nat := 395

/-- `CURRENCY_TYPE_VALOR_POINTS`. -/
def valorPoints : Nat := 396

/-- The archaeology currencies that `GetCurrencyTotalCap` lists; the troll one is missing. -/
def archaeologyFragments : List Nat := [384, 398, 393, 400, 394, 397, 401, 399]

/-- `CURRENCY_CATEGORY_META_CONQUEST`. -/
def categoryMetaConquest : Nat := 89

/-- `CURRENCY_PRECISION`. -/
def currencyPrecision : Nat := 100

/-- `CURRENCY_FLAG_COUNT_SEASON_TOTAL` is set. -/
def CurrencyTypesEntry.countsSeason (currency : CurrencyTypesEntry) : Bool :=
  currency.flags &&& 0x80 != 0

/-- The currency table and the world configuration. -/
structure Realm where
  lookupEntry : Nat → Option CurrencyTypesEntry
  maxHonorPoints : Nat
  maxJusticePoints : Nat
  conquest : CurrencyTypesEntry
  /-- An entry is filed under its id, which fits the column of the saved rows. -/
  lookupEntry_id : ∀ id currency, lookupEntry id = some currency → currency.id = id ∧ id < 2 ^ 16
  lookupEntry_conquest : lookupEntry conquestPoints = some conquest
  conquest_category : conquest.category ≠ categoryMetaConquest

/-- The fields of a `PlayerCurrency` that its opening leaves unset. -/
structure Unset where
  weekCount : Nat
  weekCap : Nat
  deriving DecidableEq

/-- A record as `ModifyCurrency` opens it. -/
def opened (unset : Unset) : PlayerCurrency := ⟨.new, 0, unset.weekCount, unset.weekCap, 0⟩

namespace Storage

/-- The record of a currency, opened when there is none. -/
def opening (storage : Storage) (unset : Unset) (id : Nat) : Storage :=
  match storage.find? id with
  | none => storage.insert id (opened unset)
  | some _ => storage

/-- The total of a currency. -/
def totalCount (storage : Storage) (id : Nat) : Nat :=
  ((storage.find? id).map PlayerCurrency.totalCount).getD 0

/-- What was gained of a currency this week. -/
def weekCount (storage : Storage) (id : Nat) : Nat :=
  ((storage.find? id).map PlayerCurrency.weekCount).getD 0

/-- `Player::GetConquestWeekCap`. -/
def getConquestWeekCap (storage : Storage) (id : Nat) : Nat :=
  let own := ((storage.find? id).map PlayerCurrency.weekCap).getD 0
  if own ≠ 0 ∧ own < 400000 then own
  else if id = conquestMetaArena then 135000
  else 165000

end Storage

namespace Realm

variable (realm : Realm)

/-- `Player::GetCurrencyWeekCap`. -/
def getCurrencyWeekCap (storage : Storage) (currency : CurrencyTypesEntry) : Nat :=
  if currency.id = conquestPoints then
    match realm.lookupEntry conquestMetaArena, realm.lookupEntry conquestMetaRbg with
    | some arena, some rbg =>
      max (storage.getConquestWeekCap arena.id) (storage.getConquestWeekCap rbg.id)
    | _, _ => storage.getConquestWeekCap currency.id
  else if currency.id = conquestMetaArena ∨ currency.id = conquestMetaRbg then
    storage.getConquestWeekCap currency.id
  else if currency.id = valorPoints then 1000 * currencyPrecision
  else currency.weekCap

/-- `Player::GetCurrencyTotalCap`. -/
def getCurrencyTotalCap (currency : CurrencyTypesEntry) : Nat :=
  if currency.id = honorPoints then
    if 0 < realm.maxHonorPoints then realm.maxHonorPoints else currency.totalCap
  else if currency.id = justicePoints then
    if 0 < realm.maxJusticePoints then realm.maxJusticePoints else currency.totalCap
  else if currency.id ∈ archaeologyFragments then 1500
  else currency.totalCap

end Realm

/-! ### One record -/

/-- The count after it was clamped to the week cap and to the total cap. -/
def clampCount (weekCap totalCap : Nat) (isRefund : Bool) (count : Int) : Int :=
  let count := if isRefund = false ∧ weekCap ≠ 0 ∧ int32 weekCap < count then int32 weekCap
    else count
  if totalCap ≠ 0 ∧ int32 totalCap < count then int32 totalCap else count

/-- The new total and the new week count. -/
def newCounts (weekCap totalCap oldTotalCount oldWeekCount : Nat) (isRefund : Bool)
    (count : Int) : Int × Int :=
  let newTotalCount := max 0 (int32 (int32 oldTotalCount + count))
  let newWeekCount := max 0 (int32 (int32 oldWeekCount + max 0 count))
  let (newTotalCount, newWeekCount) :=
    if isRefund = false ∧ weekCap ≠ 0 ∧ int32 weekCap < newWeekCount then
      (int32 (oldTotalCount + (weekCap - oldWeekCount)), int32 weekCap)
    else (newTotalCount, newWeekCount)
  if totalCap ≠ 0 ∧ int32 totalCap < newTotalCount then (int32 totalCap, int32 weekCap)
  else (newTotalCount, newWeekCount)

/-- The record after a change of its total. -/
def PlayerCurrency.modified (record : PlayerCurrency) (currency : CurrencyTypesEntry)
    (isRefund : Bool) (oldWeekCount : Nat) (count : Int) (counts : Int × Int) : PlayerCurrency :=
  { record with
    state := if record.state = .new then .new else .changed
    totalCount := uint32 counts.1
    weekCount := if isRefund then oldWeekCount else uint32 counts.2
    seasonalCap := if isRefund = false ∧ 0 < count then
        if currency.countsSeason then uint32 (record.seasonalCap + count) else record.seasonalCap
      else record.seasonalCap }

/-- `Player::ModifyCurrency` on the record of a currency: the storage after it and, when the total
changed, the clamped count. -/
def Realm.modifyRecord (realm : Realm) (unset : Unset) (storage : Storage)
    (currency : CurrencyTypesEntry) (isRefund : Bool) (count : Int) : Storage × Option Int :=
  let oldTotalCount := storage.totalCount currency.id
  let oldWeekCount := storage.weekCount currency.id
  let storage := storage.opening unset currency.id
  let weekCap := realm.getCurrencyWeekCap storage currency
  let totalCap := realm.getCurrencyTotalCap currency
  if isRefund = false ∧ weekCap ≠ 0 ∧ weekCap = oldWeekCount ∧ 0 < count then (storage, none)
  else
    let count := clampCount weekCap totalCap isRefund count
    let counts := newCounts weekCap totalCap oldTotalCount oldWeekCount isRefund count
    if uint32 counts.1 ≠ oldTotalCount then
      (storage.insert currency.id
        (((storage.find? currency.id).getD (opened unset)).modified currency isRefund oldWeekCount
          count counts), some count)
    else (storage, none)

/-- `Player::ModifyCurrency` with a known currency; `auras` is what
`SPELL_AURA_MOD_CURRENCY_GAIN` makes of a count. -/
def Realm.modifyEntry (realm : Realm) (unset : Nat → Unset) (auras : Nat → Int → Int)
    (storage : Storage) (currency : CurrencyTypesEntry) (ignoreMultipliers isRefund : Bool)
    (count : Int) : Storage × Option Int :=
  if count = 0 then (storage, none)
  else realm.modifyRecord (unset currency.id) storage currency isRefund
    (if ignoreMultipliers || isRefund then count else auras currency.id count)

/-- `Player::ModifyCurrency`; there is no storage after it when the currency is unknown. -/
def Realm.modifyCurrency (realm : Realm) (unset : Nat → Unset) (auras : Nat → Int → Int)
    (storage : Storage) (id : Nat) (count : Int) (ignoreMultipliers isRefund : Bool) :
    Option Storage :=
  if count = 0 then some storage
  else (realm.lookupEntry id).map fun currency =>
    match realm.modifyEntry unset auras storage currency ignoreMultipliers isRefund count with
    | (storage, none) => storage
    | (storage, some count) =>
      if currency.category = categoryMetaConquest then
        (realm.modifyEntry unset auras storage realm.conquest false false count).1
      else storage

/-- Justice points, conquest points and the meta currency of the arenas. -/
def smallTypes (id : Nat) : Option CurrencyTypesEntry :=
  [⟨390, 2, 400000, 0, 0x88⟩, ⟨395, 2, 400000, 0, 0x8⟩, ⟨483, 89, 0, 0, 0x8⟩,
    ⟨484, 89, 0, 0, 0x8⟩].find? fun currency => currency.id == id

theorem smallTypes_id (id : Nat) (currency : CurrencyTypesEntry)
    (h : smallTypes id = some currency) : currency.id = id ∧ id < 2 ^ 16 := by
  have hid : currency.id = id := by simpa using List.find?_some h
  have hmem := List.mem_of_find?_eq_some h
  refine ⟨hid, ?_⟩
  rw [← hid]
  clear h hid
  revert currency
  decide

theorem smallTypes_category : categoryMetaConquest ≠ 2 := by decide

/-- A realm with these currencies. -/
def smallRealm : Realm where
  lookupEntry := smallTypes
  maxHonorPoints := 0
  maxJusticePoints := 0
  conquest := ⟨390, 2, 400000, 0, 0x88⟩
  lookupEntry_id := smallTypes_id
  lookupEntry_conquest := rfl
  conquest_category := smallTypes_category.symm

end Cataclysm.Currency
