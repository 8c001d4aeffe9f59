import Cataclysm.Lib.Runs
import Cataclysm.Players.Currency

/-!
# Saved currencies

A record is saved by what happened to it: a new one inserts its row, a changed one updates the row
it has, an unchanged one is not written. A weekly reset and a new conquest cap mark a record as
changed even when it is new, and an insertion writes no season count; outside of these two cases
what is loaded after a save is what was there.

## Implementation notes

The rows are those of one character. The conquest caps that the ratings of a player give are
parameters of an operation.
-/

namespace Cataclysm.Currency

/-- A row of `character_currency`. -/
structure CurrencyRow where
  weekCount : Nat
  totalCount : Nat
  weekCap : Nat
  newCap : Nat
  seasonCap : Nat
  deriving DecidableEq

/-- The rows of a character, by their currency. -/
abbrev Rows := OrderedMap Nat CurrencyRow

/-- `Player::SetCurrency`; the week cap of the record stays unset. -/
def setCurrency (storage : Storage) (id count unsetWeekCap : Nat) : Storage :=
  match storage.find? id with
  | none => storage.insert id ⟨.new, count, 0, unsetWeekCap, 0⟩
  | some _ => storage

/-- The caps that the arena rating and the battleground rating of a player give. -/
structure RatingCaps where
  arena : Nat
  rbg : Nat
  deriving DecidableEq

/-- The cap that `UpdateConquestCurrencyCap` computes. -/
def RatingCaps.capOf (caps : RatingCaps) (id : Nat) : Nat :=
  if id = conquestPoints then max caps.arena caps.rbg
  else if id = conquestMetaArena then caps.arena
  else if id = conquestMetaRbg then caps.rbg
  else 0

/-- `Player::UpdateConquestCurrencyCap`. -/
def Realm.updateConquestCurrencyCap (realm : Realm) (caps : RatingCaps) (storage : Storage)
    (id : Nat) : Storage :=
  match realm.lookupEntry id with
  | none => storage
  | some currency =>
    match storage.find? currency.id with
    | none => storage
    | some record =>
      storage.insert currency.id { record with weekCap := caps.capOf id, state := .changed }

/-- `Player::ResetCurrencyWeekCap`. -/
def Realm.resetCurrencyWeekCap (realm : Realm) (caps : RatingCaps) (storage : Storage) : Storage :=
  [conquestPoints, conquestMetaArena, conquestMetaRbg].foldl (realm.updateConquestCurrencyCap caps)
    (storage.map fun record => { record with weekCount := 0, state := .changed })

/-- What `_SaveCurrency` writes for one record: `CHAR_REP_PLAYER_CURRENCY` for a new one,
`CHAR_UPD_PLAYER_CURRENCY` for a changed one. -/
def saveRecord (realm : Realm) (storage : Storage) (rows : Rows) (entry : Nat × PlayerCurrency) :
    Rows :=
  match realm.lookupEntry entry.1 with
  | none => rows
  | some currency =>
    let cap := realm.getCurrencyWeekCap storage currency
    let weekcap := if cap ≠ 0 then cap else 165000
    let key := entry.1 % 2 ^ 16
    match entry.2.state with
    | .new => rows.insert key ⟨entry.2.weekCount, entry.2.totalCount, weekcap, weekcap, 0⟩
    | .changed =>
      if rows.contains key then
        rows.insert key ⟨entry.2.weekCount, entry.2.totalCount, weekcap, weekcap,
          entry.2.seasonalCap⟩
      else rows
    | .unchanged => rows

/-- `Player::_SaveCurrency`: the rows. -/
def Realm.saveCurrency (realm : Realm) (storage : Storage) (rows : Rows) : Rows :=
  storage.entries.foldl (saveRecord realm storage) rows

/-- `Player::_SaveCurrency`: the records. -/
def Realm.savedCurrency (realm : Realm) (storage : Storage) : Storage :=
  storage.mapValues fun id record =>
    if (realm.lookupEntry id).isSome then { record with state := .unchanged } else record

/-- `Player::_LoadCurrency`. -/
def Realm.loadCurrency (realm : Realm) (rows : Rows) : Storage :=
  (rows.filter fun id _ => (realm.lookupEntry id).isSome).map fun row =>
    ⟨.unchanged, row.totalCount, row.weekCount, row.weekCap, row.seasonCap⟩

/-! ### Characters -/

/-- The currencies of a character in memory and its rows. -/
structure Character where
  storage : Storage
  rows : Rows

/-- What changes or saves the currencies of a player. -/
inductive Operation (realm : Realm)
  | modifyCurrency (currency : CurrencyTypesEntry)
      (known : realm.lookupEntry currency.id = some currency) (count : Int)
      (ignoreMultipliers isRefund : Bool) (unset : Nat → Unset) (auras : Nat → Int → Int)
  | setCurrency (id count unsetWeekCap : Nat)
  | resetCurrencyWeekCap (caps : RatingCaps)
  | updateConquestCurrencyCap (caps : RatingCaps) (id : Nat)
  | saveCurrency

/-- One operation. -/
def Character.step (realm : Realm) (c : Character) : Operation realm → Character
  | .modifyCurrency currency _ count ignoreMultipliers isRefund unset auras =>
    { c with storage := (realm.modifyCurrency unset auras c.storage currency.id count
        ignoreMultipliers isRefund).getD c.storage }
  | .setCurrency id count unsetWeekCap =>
    { c with storage := Currency.setCurrency c.storage id count unsetWeekCap }
  | .resetCurrencyWeekCap caps => { c with storage := realm.resetCurrencyWeekCap caps c.storage }
  | .updateConquestCurrencyCap caps id =>
    { c with storage := realm.updateConquestCurrencyCap caps c.storage id }
  | .saveCurrency => ⟨realm.savedCurrency c.storage, realm.saveCurrency c.storage c.rows⟩

/-- A character after its rows were loaded. -/
def Character.loaded (realm : Realm) (rows : Rows) : Character := ⟨realm.loadCurrency rows, rows⟩

/-- No record is new. -/
def NoneNew (storage : Storage) : Prop :=
  ∀ id record, storage.find? id = some record → record.state ≠ .new

/-- The operations that lose nothing. -/
def Keeps (realm : Realm) (c : Character) : Operation realm → Prop
  | .modifyCurrency .. => True
  | .setCurrency id _ _ => (realm.lookupEntry id).isSome = true
  | .resetCurrencyWeekCap _ => NoneNew c.storage
  | .updateConquestCurrencyCap _ id =>
    ∀ record, c.storage.find? id = some record → record.state ≠ .new
  | .saveCurrency => ∀ id record, c.storage.find? id = some record → record.state = .new →
      record.seasonalCap = 0

/-- The counts that rows keep: the total, the week count and the season count. -/
def PlayerCurrency.counts (record : PlayerCurrency) : Nat × Nat × Nat :=
  (record.totalCount, record.weekCount, record.seasonalCap)

/-- Loading the rows gives back the counts of every currency. -/
def Restores (realm : Realm) (c : Character) : Prop :=
  ∀ id, ((realm.loadCurrency c.rows).find? id).map PlayerCurrency.counts =
    (c.storage.find? id).map PlayerCurrency.counts

/-! ### Rows and records -/

/-- What rows and records agree on between two saves. -/
structure Synced (realm : Realm) (c : Character) : Prop where
  known : ∀ id record, c.storage.find? id = some record → (realm.lookupEntry id).isSome = true
  changed : ∀ id record, c.storage.find? id = some record → record.state = .changed →
    c.rows.find? id ≠ none
  unchanged : ∀ id record, c.storage.find? id = some record → record.state = .unchanged →
    ∃ row, c.rows.find? id = some row ∧
      (row.totalCount, row.weekCount, row.seasonCap) = record.counts
  loaded : ∀ id, c.rows.find? id ≠ none → (realm.lookupEntry id).isSome = true →
    c.storage.find? id ≠ none

variable {realm : Realm}

variable {id : Nat}

/-- The record of a loaded row. -/
def CurrencyRow.record (row : CurrencyRow) : PlayerCurrency :=
  ⟨.unchanged, row.totalCount, row.weekCount, row.weekCap, row.seasonCap⟩

theorem find?_loadCurrency (rows : Rows) (id : Nat) :
    (realm.loadCurrency rows).find? id =
      if (realm.lookupEntry id).isSome then (rows.find? id).map CurrencyRow.record else none := by
  unfold Realm.loadCurrency
  rw [OrderedMap.find?_map, OrderedMap.find?_filter_keys rows fun id =>
    (realm.lookupEntry id).isSome]
  split
  · rfl
  · rfl

theorem lookupEntry_lt {currency : CurrencyTypesEntry} (h : realm.lookupEntry id = some currency) :
    id % 2 ^ 16 = id :=
  Nat.mod_eq_of_lt (realm.lookupEntry_id id currency h).2

/-- What saving a record makes of its row. -/
def savedRow (realm : Realm) (storage : Storage) (entry : Nat × PlayerCurrency)
    (old : Option CurrencyRow) : Option CurrencyRow :=
  (realm.lookupEntry entry.1).elim old fun currency =>
    let cap := realm.getCurrencyWeekCap storage currency
    let weekcap := if cap ≠ 0 then cap else 165000
    if entry.2.state = .new then
      some ⟨entry.2.weekCount, entry.2.totalCount, weekcap, weekcap, 0⟩
    else if entry.2.state = .changed then
      old.map fun _ => ⟨entry.2.weekCount, entry.2.totalCount, weekcap, weekcap,
        entry.2.seasonalCap⟩
    else old

theorem find?_saveRecord (storage : Storage) (rows : Rows) (entry : Nat × PlayerCurrency)
    (id : Nat) :
    (saveRecord realm storage rows entry).find? id =
      if id = entry.1 then savedRow realm storage entry (rows.find? id) else rows.find? id := by
  unfold saveRecord savedRow
  cases hknown : realm.lookupEntry entry.1 with
  | none => simp only [Option.elim_none, ite_self]
  | some currency =>
    simp only [Option.elim_some, lookupEntry_lt hknown]
    cases hstate : entry.2.state with
    | new => simp only [OrderedMap.find?_insert, if_true]
    | changed =>
      by_cases hid : id = entry.1
      · subst hid
        unfold OrderedMap.contains
        cases hrow : rows.find? entry.1 with
        | none => simp [hrow]
        | some row => simp
      · rw [if_neg hid]
        dsimp only
        split
        · rw [OrderedMap.find?_insert, if_neg hid]
        · rfl
    | unchanged => simp

theorem find?_saveCurrency (storage : Storage) (rows : Rows) (id : Nat) :
    (realm.saveCurrency storage rows).find? id =
      (storage.find? id).elim (rows.find? id) fun record =>
        savedRow realm storage (id, record) (rows.find? id) :=
  OrderedMap.find?_foldl_entries storage
    (fun rows entry id => find?_saveRecord storage rows entry id) rows id

theorem find?_savedCurrency (storage : Storage) (id : Nat) :
    (realm.savedCurrency storage).find? id = (storage.find? id).map fun record =>
      if (realm.lookupEntry id).isSome then { record with state := .unchanged } else record :=
  OrderedMap.find?_mapValues storage _ id

/-! ### Loading and saving -/

variable {c : Character}

theorem synced_loaded (realm : Realm) (rows : Rows) : Synced realm (Character.loaded realm rows) := by
  have hfind : ∀ id record, (Character.loaded realm rows).storage.find? id = some record →
      (realm.lookupEntry id).isSome = true ∧
        ∃ row, rows.find? id = some row ∧ row.record = record := by
    intro id record h
    change (realm.loadCurrency rows).find? id = some record at h
    rw [find?_loadCurrency] at h
    split_ifs at h with hknown
    obtain ⟨row, hrow, hrecord⟩ := Option.map_eq_some_iff.mp h
    exact ⟨hknown, row, hrow, hrecord⟩
  constructor
  · exact fun id record h => (hfind id record h).1
  · intro id record h hchanged
    obtain ⟨-, row, -, rfl⟩ := hfind id record h
    cases hchanged
  · intro id record h _
    obtain ⟨-, row, hrow, rfl⟩ := hfind id record h
    exact ⟨row, hrow, rfl⟩
  · intro id hrow hknown
    change (realm.loadCurrency rows).find? id ≠ none
    rw [find?_loadCurrency, if_pos hknown, ne_eq, Option.map_eq_none_iff]
    exact hrow

/-- After a save that loses nothing every row is in step with its record. -/
theorem Synced.saved (h : Synced realm c) (hkeeps : Keeps realm c .saveCurrency)
    {record : PlayerCurrency} (hfind : c.storage.find? id = some record) :
    ∃ row, (realm.saveCurrency c.storage c.rows).find? id = some row ∧
      (row.totalCount, row.weekCount, row.seasonCap) = record.counts := by
  obtain ⟨currency, hknown⟩ := Option.isSome_iff_exists.mp (h.known id record hfind)
  rw [find?_saveCurrency, hfind, Option.elim_some]
  unfold savedRow
  simp only [hknown, Option.elim_some]
  cases hstate : record.state with
  | new =>
    have hseason := hkeeps id record hfind hstate
    refine ⟨_, if_pos rfl, ?_⟩
    unfold PlayerCurrency.counts
    rw [hseason]
  | changed =>
    obtain ⟨row, hrow⟩ := Option.ne_none_iff_exists'.mp (h.changed id record hfind hstate)
    rw [hrow]
    exact ⟨_, rfl, rfl⟩
  | unchanged =>
    obtain ⟨row, hrow, hcounts⟩ := h.unchanged id record hfind hstate
    rw [hrow]
    exact ⟨row, rfl, hcounts⟩

theorem Synced.saveCurrency (h : Synced realm c) (hkeeps : Keeps realm c .saveCurrency) :
    Synced realm (c.step realm .saveCurrency) := by
  have hback : ∀ id record, (realm.savedCurrency c.storage).find? id = some record →
      ∃ old, c.storage.find? id = some old ∧ record = { old with state := .unchanged } := by
    intro id record hfind
    rw [find?_savedCurrency] at hfind
    obtain ⟨old, hold, hrecord⟩ := Option.map_eq_some_iff.mp hfind
    rw [if_pos (h.known id old hold)] at hrecord
    exact ⟨old, hold, hrecord.symm⟩
  constructor
  · intro id record hfind
    obtain ⟨old, hold, -⟩ := hback id record hfind
    exact h.known id old hold
  · intro id record hfind hchanged
    obtain ⟨old, -, rfl⟩ := hback id record hfind
    cases hchanged
  · intro id record hfind _
    obtain ⟨old, hold, rfl⟩ := hback id record hfind
    obtain ⟨row, hrow, hcounts⟩ := h.saved hkeeps hold
    exact ⟨row, hrow, hcounts⟩
  · intro id hrow hknown
    change (realm.savedCurrency c.storage).find? id ≠ none
    rw [find?_savedCurrency, ne_eq, Option.map_eq_none_iff]
    intro hnone
    change (realm.saveCurrency c.storage c.rows).find? id ≠ none at hrow
    rw [find?_saveCurrency, hnone, Option.elim_none] at hrow
    exact h.loaded id hrow hknown hnone

/-- Rows in step with unchanged records load as they are. -/
theorem Synced.restores (h : Synced realm c)
    (hall : ∀ id record, c.storage.find? id = some record → record.state = .unchanged) :
    Restores realm c := by
  intro id
  rw [find?_loadCurrency]
  cases hfind : c.storage.find? id with
  | none =>
    split
    · next hknown =>
        have hrow : c.rows.find? id = none := by
          by_contra hrow
          exact h.loaded id hrow hknown hfind
        rw [hrow]
        rfl
    · rfl
  | some record =>
    obtain ⟨row, hrow, hcounts⟩ := h.unchanged id record hfind (hall id record hfind)
    rw [if_pos (h.known id record hfind), hrow]
    exact congrArg some hcounts

/-! ### Changes in memory -/

variable {storage : Storage}

/-- A record is kept, or it stays new, or it is marked as changed. -/
def Marks (old record : PlayerCurrency) : Prop :=
  record = old ∨ (old.state = .new ∧ record.state = .new) ∨
    (old.state ≠ .new ∧ record.state = .changed)

/-- Records are kept or marked, and those that are added are new. -/
structure Tracked (realm : Realm) (storage storage' : Storage) : Prop where
  added : ∀ id record, storage.find? id = none → storage'.find? id = some record →
    record.state = .new ∧ (realm.lookupEntry id).isSome = true
  marked : ∀ id old, storage.find? id = some old →
    ∃ record, storage'.find? id = some record ∧ Marks old record

theorem Tracked.refl (storage : Storage) : Tracked realm storage storage := by
  constructor
  · intro id record hnone hfind
    rw [hnone] at hfind
    cases hfind
  · exact fun id old hfind => ⟨old, hfind, .inl rfl⟩

theorem Marks.trans {a b c : PlayerCurrency} (h : Marks a b) (h' : Marks b c) : Marks a c := by
  rcases h with rfl | ⟨ha, hb⟩ | ⟨ha, hb⟩
  · exact h'
  · rcases h' with rfl | ⟨-, hc⟩ | ⟨hb', -⟩
    · exact .inr (.inl ⟨ha, hb⟩)
    · exact .inr (.inl ⟨ha, hc⟩)
    · exact absurd hb hb'
  · rcases h' with rfl | ⟨hb', -⟩ | ⟨-, hc⟩
    · exact .inr (.inr ⟨ha, hb⟩)
    · rw [hb] at hb'
      cases hb'
    · exact .inr (.inr ⟨ha, hc⟩)

theorem Tracked.trans {a b c : Storage} (h : Tracked realm a b) (h' : Tracked realm b c) :
    Tracked realm a c := by
  constructor
  · intro id record hnone hfind
    cases hb : b.find? id with
    | none => exact h'.added id record hb hfind
    | some middle =>
      obtain ⟨hnew, hknown⟩ := h.added id middle hnone hb
      obtain ⟨record', hfind', hmarks⟩ := h'.marked id middle hb
      obtain rfl := Option.some.inj (hfind.symm.trans hfind')
      refine ⟨?_, hknown⟩
      rcases hmarks with rfl | ⟨-, hrecord⟩ | ⟨hno, -⟩
      · exact hnew
      · exact hrecord
      · exact absurd hnew hno
  · intro id old hfind
    obtain ⟨middle, hb, hmarks⟩ := h.marked id old hfind
    obtain ⟨record, hc, hmarks'⟩ := h'.marked id middle hb
    exact ⟨record, hc, hmarks.trans hmarks'⟩

/-- One record is put. -/
theorem tracked_insert {record : PlayerCurrency}
    (hadded : storage.find? id = none → record.state = .new ∧ (realm.lookupEntry id).isSome = true)
    (hmarked : ∀ old, storage.find? id = some old → Marks old record) :
    Tracked realm storage (storage.insert id record) := by
  constructor
  · intro id' record' hnone hfind
    rw [OrderedMap.find?_insert] at hfind
    split_ifs at hfind with hid
    · subst hid
      obtain rfl := Option.some.inj hfind
      exact hadded hnone
    · rw [hnone] at hfind
      cases hfind
  · intro id' old hfind
    rw [OrderedMap.find?_insert]
    by_cases hid : id' = id
    · subst hid
      exact ⟨record, if_pos rfl, hmarked old hfind⟩
    · exact ⟨old, by rw [if_neg hid, hfind], .inl rfl⟩

/-- What is in step stays in step when records are tracked. -/
theorem Synced.tracked (h : Synced realm c) {storage' : Storage}
    (htracked : Tracked realm c.storage storage') :
    Synced realm { c with storage := storage' } := by
  have hback : ∀ id record, storage'.find? id = some record → record.state ≠ .new →
      ∃ old, c.storage.find? id = some old ∧ Marks old record := by
    intro id record hfind hstate
    cases hold : c.storage.find? id with
    | none => exact absurd (htracked.added id record hold hfind).1 hstate
    | some old =>
      obtain ⟨record', hfind', hmarks⟩ := htracked.marked id old hold
      obtain rfl := Option.some.inj (hfind.symm.trans hfind')
      exact ⟨old, rfl, hmarks⟩
  constructor
  · intro id record hfind
    cases hold : c.storage.find? id with
    | none => exact (htracked.added id record hold hfind).2
    | some old => exact h.known id old hold
  · intro id record hfind hchanged
    obtain ⟨old, hold, hmarks⟩ := hback id record hfind (by rw [hchanged]; decide)
    rcases hmarks with rfl | ⟨-, hno⟩ | ⟨hnotnew, -⟩
    · exact h.changed id record hold hchanged
    · rw [hchanged] at hno
      cases hno
    · cases hstate : old.state with
      | new => exact absurd hstate hnotnew
      | changed => exact h.changed id old hold hstate
      | unchanged =>
        obtain ⟨row, hrow, -⟩ := h.unchanged id old hold hstate
        exact Option.ne_none_iff_exists'.mpr ⟨row, hrow⟩
  · intro id record hfind hunchanged
    obtain ⟨old, hold, hmarks⟩ := hback id record hfind (by rw [hunchanged]; decide)
    rcases hmarks with rfl | ⟨-, hno⟩ | ⟨-, hno⟩
    · exact h.unchanged id record hold hunchanged
    · rw [hunchanged] at hno
      cases hno
    · rw [hunchanged] at hno
      cases hno
  · intro id hrow hknown
    obtain ⟨old, hold⟩ := Option.ne_none_iff_exists'.mp (h.loaded id hrow hknown)
    obtain ⟨record, hfind, -⟩ := htracked.marked id old hold
    exact Option.ne_none_iff_exists'.mpr ⟨record, hfind⟩

/-! ### The operations -/

theorem tracked_opening (unset : Unset) (hknown : (realm.lookupEntry id).isSome = true) :
    Tracked realm storage (storage.opening unset id) := by
  unfold Storage.opening
  split
  · next hnone =>
      refine tracked_insert (fun _ => ⟨rfl, hknown⟩) fun old hold => ?_
      rw [hnone] at hold
      cases hold
  · exact .refl storage

theorem tracked_modifyRecord (unset : Unset) (storage : Storage) {currency : CurrencyTypesEntry}
    (isRefund : Bool) (count : Int) (hknown : (realm.lookupEntry currency.id).isSome = true) :
    Tracked realm storage (realm.modifyRecord unset storage currency isRefund count).1 := by
  have hopening : Tracked realm storage (storage.opening unset currency.id) :=
    tracked_opening unset hknown
  unfold Realm.modifyRecord
  simp only
  split
  · exact hopening
  · split
    · refine hopening.trans (tracked_insert ?_ ?_)
      · intro hnone
        refine ⟨?_, hknown⟩
        rw [hnone]
        rfl
      · intro old hold
        rw [hold, Option.getD_some]
        unfold PlayerCurrency.modified
        by_cases hnew : old.state = .new
        · exact .inr (.inl ⟨hnew, if_pos hnew⟩)
        · exact .inr (.inr ⟨hnew, if_neg hnew⟩)
    · exact hopening

theorem tracked_modifyEntry (unset : Nat → Unset) (auras : Nat → Int → Int) (storage : Storage)
    {currency : CurrencyTypesEntry} (ignoreMultipliers isRefund : Bool) (count : Int)
    (hknown : (realm.lookupEntry currency.id).isSome = true) :
    Tracked realm storage
      (realm.modifyEntry unset auras storage currency ignoreMultipliers isRefund count).1 := by
  unfold Realm.modifyEntry
  split
  · exact .refl storage
  · exact tracked_modifyRecord _ storage isRefund _ hknown

theorem tracked_modifyCurrency (unset : Nat → Unset) (auras : Nat → Int → Int) (storage : Storage)
    {currency : CurrencyTypesEntry} (hknown : realm.lookupEntry currency.id = some currency)
    (count : Int) (ignoreMultipliers isRefund : Bool) :
    Tracked realm storage ((realm.modifyCurrency unset auras storage currency.id count
      ignoreMultipliers isRefund).getD storage) := by
  have hown := tracked_modifyEntry unset auras storage ignoreMultipliers isRefund count
    (Option.isSome_iff_exists.mpr ⟨currency, hknown⟩)
  have hconquest : (realm.lookupEntry realm.conquest.id).isSome = true := by
    rw [(realm.lookupEntry_id _ _ realm.lookupEntry_conquest).1, realm.lookupEntry_conquest]
    rfl
  unfold Realm.modifyCurrency
  by_cases hzero : count = 0
  · rw [if_pos hzero]
    exact .refl storage
  · rw [if_neg hzero, hknown, Option.map_some, Option.getD_some]
    split
    · next hentry =>
        rw [hentry] at hown
        exact hown
    · next hentry =>
        rw [hentry] at hown
        split
        · exact hown.trans (tracked_modifyEntry unset auras _ false false _ hconquest)
        · exact hown

theorem tracked_setCurrency (storage : Storage) (count unsetWeekCap : Nat)
    (hknown : (realm.lookupEntry id).isSome = true) :
    Tracked realm storage (setCurrency storage id count unsetWeekCap) := by
  unfold setCurrency
  split
  · next hnone =>
      refine tracked_insert (fun _ => ⟨rfl, hknown⟩) fun old hold => ?_
      rw [hnone] at hold
      cases hold
  · exact .refl storage

theorem tracked_updateConquestCurrencyCap (caps : RatingCaps)
    (hnotnew : ∀ record, storage.find? id = some record → record.state ≠ .new) :
    Tracked realm storage (realm.updateConquestCurrencyCap caps storage id) := by
  unfold Realm.updateConquestCurrencyCap
  cases hknown : realm.lookupEntry id with
  | none => exact .refl storage
  | some currency =>
    dsimp only
    rw [(realm.lookupEntry_id id currency hknown).1]
    cases hfind : storage.find? id with
    | none => exact .refl storage
    | some record =>
      refine tracked_insert (fun hnone => ?_) fun old hold => ?_
      · rw [hfind] at hnone
        cases hnone
      · rw [hfind] at hold
        obtain rfl := Option.some.inj hold
        exact .inr (.inr ⟨hnotnew record hfind, rfl⟩)

theorem noneNew_updateConquestCurrencyCap (caps : RatingCaps) (id : Nat) (h : NoneNew storage) :
    NoneNew (realm.updateConquestCurrencyCap caps storage id) := by
  unfold Realm.updateConquestCurrencyCap
  split
  · exact h
  · split
    · exact h
    · intro id' record hfind
      rw [OrderedMap.find?_insert] at hfind
      split_ifs at hfind
      · obtain rfl := Option.some.inj hfind
        exact fun hno => by cases hno
      · exact h id' record hfind

theorem tracked_updateAll (caps : RatingCaps) (ids : List Nat) (h : NoneNew storage) :
    Tracked realm storage (ids.foldl (realm.updateConquestCurrencyCap caps) storage) := by
  induction ids generalizing storage with
  | nil => exact .refl storage
  | cons id rest ih =>
    exact (tracked_updateConquestCurrencyCap caps fun record hfind => h id record hfind).trans
      (ih (noneNew_updateConquestCurrencyCap caps id h))

theorem tracked_resetCurrencyWeekCap (caps : RatingCaps) (h : NoneNew storage) :
    Tracked realm storage (realm.resetCurrencyWeekCap caps storage) := by
  have hmap : Tracked realm storage
      (storage.map fun record => { record with weekCount := 0, state := .changed }) := by
    constructor
    · intro id record hnone hfind
      rw [OrderedMap.find?_map, hnone] at hfind
      cases hfind
    · intro id old hfind
      rw [OrderedMap.find?_map, hfind]
      exact ⟨_, rfl, .inr (.inr ⟨h id old hfind, rfl⟩)⟩
  have hnone : NoneNew
      (storage.map fun record => { record with weekCount := 0, state := .changed }) := by
    intro id record hfind
    rw [OrderedMap.find?_map] at hfind
    obtain ⟨old, -, rfl⟩ := Option.map_eq_some_iff.mp hfind
    exact fun hno => by cases hno
  exact hmap.trans (tracked_updateAll caps _ hnone)

/-- An operation that loses nothing keeps rows and records in step. -/
theorem Synced.step (h : Synced realm c) {operation : Operation realm}
    (hkeeps : Keeps realm c operation) : Synced realm (c.step realm operation) := by
  cases operation with
  | modifyCurrency currency known count ignoreMultipliers isRefund unset auras =>
    exact h.tracked
      (tracked_modifyCurrency unset auras c.storage known count ignoreMultipliers isRefund)
  | setCurrency id count unsetWeekCap =>
    exact h.tracked (tracked_setCurrency c.storage count unsetWeekCap hkeeps)
  | resetCurrencyWeekCap caps => exact h.tracked (tracked_resetCurrencyWeekCap caps hkeeps)
  | updateConquestCurrencyCap caps id =>
    exact h.tracked (tracked_updateConquestCurrencyCap caps hkeeps)
  | saveCurrency => exact h.saveCurrency hkeeps

theorem Synced.restores_save (h : Synced realm c) (hkeeps : Keeps realm c .saveCurrency) :
    Restores realm (c.step realm .saveCurrency) := by
  refine (h.saveCurrency hkeeps).restores fun id record hfind => ?_
  change (realm.savedCurrency c.storage).find? id = some record at hfind
  rw [find?_savedCurrency] at hfind
  obtain ⟨old, hold, rfl⟩ := Option.map_eq_some_iff.mp hfind
  rw [if_pos (h.known id old hold)]

/-- In a run of operations that lose nothing, what is loaded after any save is what was there. -/
theorem restores_of_run (realm : Realm) (rows : Rows) (operations : List (Operation realm))
    (h : Runs.Admissible (Character.step realm) (Keeps realm) (Character.loaded realm rows)
      operations) {before : List (Operation realm)}
    (hbefore : before ++ [.saveCurrency] <+: operations) :
    Restores realm (Runs.run (Character.step realm) (Character.loaded realm rows)
      (before ++ [.saveCurrency])) := by
  have hrun := h.holds_throughout
    (P := fun history c => Synced realm c ∧
      ∀ earlier, history = earlier ++ [.saveCurrency] → Restores realm c)
    (fun {history c operation} hc hkeeps => ⟨hc.1.step hkeeps, fun earlier hlast => by
      obtain ⟨-, hsave⟩ := List.append_inj' hlast rfl
      obtain rfl := List.singleton_inj.mp hsave
      exact hc.1.restores_save hkeeps⟩)
    ⟨synced_loaded realm rows, fun earlier hnil => by simp at hnil⟩ hbefore
  exact hrun.2 before rfl

theorem forall_find? {p : Nat → PlayerCurrency → Prop}
    (h : ∀ entry ∈ storage.entries, p entry.1 entry.2) (id : Nat) (record : PlayerCurrency)
    (hfind : storage.find? id = some record) : p id record :=
  h _ (OrderedMap.find?_eq_some_iff.mp hfind)

/-- A character that gains justice points, saves them, meets a weekly reset and saves again. -/
def savedBeforeReset : List (Operation smallRealm) :=
  [.modifyCurrency ⟨395, 2, 400000, 0, 0x8⟩ rfl 100 false false (fun _ => ⟨0, 0⟩) fun _ n => n,
    .saveCurrency, .resetCurrencyWeekCap ⟨135000, 165000⟩, .saveCurrency]

theorem keeps_savedBeforeReset :
    Runs.Admissible (Character.step smallRealm) (Keeps smallRealm)
      (Character.loaded smallRealm OrderedMap.empty) savedBeforeReset := by
  refine ⟨trivial, forall_find? ?_, forall_find? ?_, forall_find? ?_, trivial⟩
  · decide +kernel
  · decide +kernel
  · decide +kernel

/-- Nothing of it is lost. -/
theorem restores_savedBeforeReset :
    Restores smallRealm (Runs.run (Character.step smallRealm)
      (Character.loaded smallRealm OrderedMap.empty) savedBeforeReset) := by
  have hsave : savedBeforeReset.take 3 ++ [.saveCurrency] <+: savedBeforeReset :=
    List.prefix_refl savedBeforeReset
  exact restores_of_run smallRealm OrderedMap.empty savedBeforeReset keeps_savedBeforeReset hsave

/-- A weekly reset before the first save loses the points, and a first save loses the season
count of conquest points. -/
theorem resetBeforeSave_lost :
    ¬ Restores smallRealm (Runs.run (Character.step smallRealm)
        (Character.loaded smallRealm OrderedMap.empty)
        [.modifyCurrency ⟨395, 2, 400000, 0, 0x8⟩ rfl 100 false false (fun _ => ⟨0, 0⟩)
            fun _ n => n,
          .resetCurrencyWeekCap ⟨135000, 165000⟩, .saveCurrency]) ∧
      ¬ Restores smallRealm (Runs.run (Character.step smallRealm)
        (Character.loaded smallRealm OrderedMap.empty)
        [.modifyCurrency ⟨390, 2, 400000, 0, 0x88⟩ rfl 100 false false (fun _ => ⟨0, 0⟩)
            fun _ n => n,
          .saveCurrency]) := by
  constructor
  · intro h
    have hpoints := h 395
    revert hpoints
    decide +kernel
  · intro h
    have hpoints := h 390
    revert hpoints
    decide +kernel

end Cataclysm.Currency
