import Cataclysm.Combat.ThreatLists

/-!
# The choice of the next victim

The choice runs through the online list and passes over second choices: targets that are immune or
held by a crowd control that damage breaks. A target is taken when no victim is compared with it,
when it is level with the victim, or when it exceeds the victim's threat by far; else it is barred.
When the last target is a second choice all are taken for the same.

The choice goes wrong in three ways. A victim that cannot be attacked still bars others. A second
choice that is the victim still bars those before it, and is kept when one of them is level with
it. And the list is gone through again only when its last target is a second choice, whether or not
all the others are.

## Implementation notes

Threat is a number of any ordered field. The first pass is written as a search for the first target
that it takes.
-/

namespace Cataclysm.Combat
open ThreatValue

/-- Threat as exact numbers. -/
instance exactThreat {F : Type} [Field F] [LinearOrder F] : ThreatValue F where
  zero := 0
  add x y := x + y
  sub x y := x - y
  neg x := -x
  lt x y := x < y
  le x y := x ≤ y
  ne x y := x ≠ y
  meleeShare x := 11 / 10 * x
  rangedShare x := 13 / 10 * x
  calculatePct x pct := x * pct / 100

namespace ThreatManager

variable {F : Type} [Field F] [LinearOrder F] (s : ThreatManager F) (answer : Answer F)

def Attackable (id : Nat) : Prop := answer.canCreatureAttack (s.targetOf id) = true

def SecondChoice (id : Nat) : Prop := answer.isSecondChoice (s.targetOf id) = true

def InMelee (id : Nat) : Prop := answer.isWithinMeleeRange (s.targetOf id) = true

/-- An attackable first choice. -/
def Preferred (id : Nat) : Prop := s.Attackable answer id ∧ ¬ s.SecondChoice answer id

/-- It is the victim or has no more than 110 % of the victim's threat. -/
def Level (victim id : Nat) : Prop :=
  victim = id ∨ s.getThreat id ≤ 11 / 10 * s.getThreat victim

/-- It has more than 130 % of the victim's threat, or in melee range more than 110 %. -/
def Exceeds (victim id : Nat) : Prop :=
  13 / 10 * s.getThreat victim < s.getThreat id ∨
    11 / 10 * s.getThreat victim < s.getThreat id ∧ s.InMelee answer id

/-- It is compared with a victim and passed over. -/
def Barred (currentVictim : Option Nat) (id : Nat) : Prop :=
  ∃ victim, currentVictim = some victim ∧ ¬ s.Level victim id ∧ ¬ s.Exceeds answer victim id

/-- What is asked of a choice. -/
structure WellChosen (currentVictim chosen : Option Nat) : Prop where
  attackable : ∀ id, chosen = some id → id ∈ s.threatContainer ∧ s.Attackable answer id
  someone : chosen = none → ∀ id ∈ s.threatContainer, ¬ s.Attackable answer id
  preferred : ∀ id, chosen = some id → s.SecondChoice answer id →
    ∀ other ∈ s.threatContainer, ¬ s.Preferred answer other
  loyal : ∀ victim id, currentVictim = some victim → s.Preferred answer victim →
    chosen = some id → id ≠ victim → s.Exceeds answer victim id

/-! ### One target -/

variable {s answer} {victim id other : Nat} {currentVictim : Option Nat}

theorem considerVictim_none :
    s.considerVictim answer none id = some other ↔ s.Attackable answer id ∧ other = id := by
  rw [considerVictim, Attackable]
  cases answer.canCreatureAttack (s.targetOf id) <;> simp [eq_comm]

theorem considerVictim_some :
    s.considerVictim answer (some victim) id = some other ↔ s.Attackable answer id ∧
      ((s.Level victim id ∧
          (victim ≠ id ∧ s.Attackable answer victim ∧ other = victim ∨
            ¬ (victim ≠ id ∧ s.Attackable answer victim) ∧ other = id)) ∨
        (¬ s.Level victim id ∧ s.Exceeds answer victim id ∧ other = id)) := by
  have hshare : ∀ x : F, (meleeShare x : F) = 11 / 10 * x := fun _ => rfl
  have hshare' : ∀ x : F, (rangedShare x : F) = 13 / 10 * x := fun _ => rfl
  have hlt : ∀ x y : F, (lt x y = true) = (x < y) := fun x y => decide_eq_true_eq
  have hle : ∀ x y : F, (le x y = true) = (x ≤ y) := fun x y => decide_eq_true_eq
  rw [considerVictim, Attackable, Attackable, Level, Exceeds, InMelee]
  simp only [Bool.or_eq_true, Bool.and_eq_true, hlt, hle, hshare, hshare']
  split_ifs <;> grind

theorem considerVictim_eq_none :
    s.considerVictim answer currentVictim id = none ↔
      ¬ s.Attackable answer id ∨ s.Barred answer currentVictim id := by
  rw [← not_iff_not, not_or, not_not, ← ne_eq, Option.ne_none_iff_exists']
  cases currentVictim with
  | none =>
    have hbarred : ¬ s.Barred answer none id := by simp [Barred]
    simp only [considerVictim_none, hbarred, not_false_eq_true, and_true, exists_and_left,
      exists_eq]
  | some victim =>
    have hbarred : s.Barred answer (some victim) id ↔
        ¬ s.Level victim id ∧ ¬ s.Exceeds answer victim id := by simp [Barred]
    simp only [considerVictim_some, hbarred]
    constructor
    · rintro ⟨other, hattack, ⟨hlevel, -⟩ | ⟨-, hexceeds, -⟩⟩
      · exact ⟨hattack, fun h => h.1 hlevel⟩
      · exact ⟨hattack, fun h => h.2 hexceeds⟩
    · rintro ⟨hattack, hfree⟩
      by_cases hlevel : s.Level victim id
      · by_cases hkept : victim ≠ id ∧ s.Attackable answer victim
        · exact ⟨victim, hattack, Or.inl ⟨hlevel, Or.inl ⟨hkept.1, hkept.2, rfl⟩⟩⟩
        · exact ⟨id, hattack, Or.inl ⟨hlevel, Or.inr ⟨hkept, rfl⟩⟩⟩
      · exact ⟨id, hattack, Or.inr ⟨hlevel, by_contra fun h => hfree ⟨hlevel, h⟩, rfl⟩⟩

/-- What is taken may be attacked and is not barred, and the choice is it or the victim. -/
theorem considerVictim_spec (h : s.considerVictim answer currentVictim id = some other) :
    s.Attackable answer id ∧ ¬ s.Barred answer currentVictim id ∧ s.Attackable answer other ∧
      (other = id ∨ currentVictim = some other) := by
  have hne : s.considerVictim answer currentVictim id ≠ none := by
    rw [h]
    exact Option.some_ne_none other
  rw [ne_eq, considerVictim_eq_none, not_or, not_not] at hne
  refine ⟨hne.1, hne.2, ?_, considerVictim_cases h⟩
  cases currentVictim with
  | none =>
    obtain ⟨hattack, rfl⟩ := considerVictim_none.mp h
    exact hattack
  | some victim =>
    obtain ⟨hattack, ⟨-, ⟨-, hvictim, rfl⟩ | ⟨-, rfl⟩⟩ | ⟨-, -, rfl⟩⟩ := considerVictim_some.mp h
    · exact hvictim
    · exact hattack
    · exact hattack

/-! ### The passes through the list -/

variable (s answer)

/-- The first pass at one target. -/
def takeFirst (currentVictim : Option Nat) (id : Nat) : Option Nat :=
  if answer.isSecondChoice (s.targetOf id) then none
  else s.considerVictim answer currentVictim id

/-- The last target is a second choice. -/
def endsSecond (ids : List Nat) : Bool :=
  ids.getLast?.any fun id => answer.isSecondChoice (s.targetOf id)

/-- The pass that takes everyone. -/
def again (currentVictim : Option Nat) : Option Nat :=
  s.threatContainer.findSome? (s.considerVictim answer currentVictim)

/-- What the choice gives when the first pass, with the victim as it is at its end, takes no one. -/
def orAgain (ids : List Nat) (currentVictim : Option Nat) : Option Nat :=
  if s.endsSecond answer ids then s.again answer currentVictim else none

variable {s answer}

theorem takeFirst_eq_none : s.takeFirst answer currentVictim id = none ↔
    ¬ s.Preferred answer id ∨ s.Barred answer currentVictim id := by
  rw [takeFirst, Preferred, SecondChoice]
  split_ifs with hsecond
  · exact iff_of_true rfl (Or.inl fun h => h.2 hsecond)
  · rw [considerVictim_eq_none]
    simp [hsecond]

theorem takeFirst_some (h : s.takeFirst answer currentVictim id = some other) :
    s.Preferred answer id ∧ s.considerVictim answer currentVictim id = some other := by
  rw [takeFirst] at h
  split_ifs at h with hsecond
  exact ⟨⟨(considerVictim_spec h).1, hsecond⟩, h⟩

omit [Field F] [LinearOrder F] in
theorem endsSecond_cons {rest : List Nat} (hne : rest ≠ []) :
    s.endsSecond answer (id :: rest) = s.endsSecond answer rest := by
  rw [endsSecond, endsSecond, List.getLast?_cons_of_ne_nil hne]

/-- No second choice before the last one is the victim, so it stays the same. -/
theorem selectFrom_eq {ids : List Nat} (hne : ids ≠ [])
    (hkeep : ∀ id ∈ ids.dropLast, s.SecondChoice answer id → currentVictim ≠ some id) :
    s.selectFrom answer ids currentVictim =
      (ids.findSome? (s.takeFirst answer currentVictim)).or
        (s.orAgain answer ids currentVictim) := by
  induction ids with
  | nil => exact absurd rfl hne
  | cons id rest ih =>
    rw [selectFrom, List.findSome?_cons, takeFirst]
    obtain rfl | hrest := eq_or_ne rest []
    · have hends : s.endsSecond answer [id] = answer.isSecondChoice (s.targetOf id) := rfl
      rw [if_pos rfl, selectFrom, List.findSome?_nil, orAgain, hends]
      split_ifs
      · rfl
      · cases s.considerVictim answer currentVictim id <;> rfl
    · have hends : s.orAgain answer (id :: rest) currentVictim =
          s.orAgain answer rest currentVictim := by
        rw [orAgain, orAgain, endsSecond_cons hrest]
      have hdrop : (id :: rest).dropLast = id :: rest.dropLast := List.dropLast_cons_of_ne_nil hrest
      rw [hdrop] at hkeep
      have hlater := ih hrest fun id' hmem => hkeep id' (List.mem_cons_of_mem id hmem)
      rw [hends, if_neg hrest, hlater]
      split_ifs with hsecond hvictim
      · exact absurd hvictim (hkeep id List.mem_cons_self hsecond)
      · exact hlater
      · cases s.considerVictim answer currentVictim id <;> rfl

/-- The targets before the victim are compared with it. -/
theorem selectFrom_append {before after : List Nat} (hnot : victim ∉ before) :
    s.selectFrom answer (before ++ victim :: after) (some victim) =
      (before.findSome? (s.takeFirst answer (some victim))).or
        (s.selectFrom answer (victim :: after) (some victim)) := by
  induction before with
  | nil => rfl
  | cons id rest ih =>
    rw [List.mem_cons, not_or] at hnot
    rw [List.cons_append, selectFrom, ih hnot.2, List.findSome?_cons, takeFirst]
    have hrest : rest ++ victim :: after ≠ [] := by simp
    have hother : some victim ≠ some id := fun h => hnot.1 (Option.some.inj h)
    rw [if_neg hrest, if_neg hother, ih hnot.2]
    split_ifs
    · rfl
    · cases s.considerVictim answer (some victim) id <;> rfl

/-- A victim that is a second choice is forgotten behind its place. -/
theorem selectFrom_forgets {after : List Nat} (hne : after ≠ [])
    (hsecond : s.SecondChoice answer victim) :
    s.selectFrom answer (victim :: after) (some victim) = s.selectFrom answer after none := by
  rw [selectFrom]
  exact (if_pos hsecond).trans ((if_neg hne).trans (by rw [if_pos rfl]))

/-- Without a victim everyone who can be attacked is taken. -/
theorem again_none : s.again answer none =
    s.threatContainer.find? fun id => answer.canCreatureAttack (s.targetOf id) := by
  rw [again, ← List.findSome?_guard]
  congr 1
  funext id
  rw [considerVictim, Option.guard]
  cases answer.canCreatureAttack (s.targetOf id) <;> rfl

/-! ### When the choice is right -/

variable (s answer)

/-- With a victim that is compared with all: a first choice can be taken, or there is none and the
list is gone through again whenever a target can be attacked, and then one can be taken. -/
def Decides (currentVictim : Option Nat) : Prop :=
  (∃ id ∈ s.threatContainer, s.Preferred answer id ∧ ¬ s.Barred answer currentVictim id) ∨
    (∀ id ∈ s.threatContainer, ¬ s.Preferred answer id) ∧
      ((∃ id ∈ s.threatContainer, s.Attackable answer id) →
        s.endsSecond answer s.threatContainer = true ∧
          ∃ id ∈ s.threatContainer,
            s.Attackable answer id ∧ ¬ s.Barred answer currentVictim id)

/-- With the victim forgotten and no first choice behind it: the list is gone through again and its
first attackable target is a first choice, or there is no first choice at all. -/
def DecidesAgain : Prop :=
  (s.endsSecond answer s.threatContainer = true ∧
    ∃ id, s.threatContainer.find? (fun id => answer.canCreatureAttack (s.targetOf id)) = some id ∧
      s.Preferred answer id) ∨
    (∀ id ∈ s.threatContainer, ¬ s.Preferred answer id) ∧
      ((∃ id ∈ s.threatContainer, s.Attackable answer id) →
        s.endsSecond answer s.threatContainer = true)

/-- With a victim that is a second choice, between those before it and those behind it. -/
def DecidesAround (victim : Nat) (before after : List Nat) : Prop :=
  (∃ id ∈ before, s.Preferred answer id ∧ ¬ s.Level victim id ∧ s.Exceeds answer victim id) ∨
    (¬ s.Attackable answer victim ∧ ∃ id ∈ before, s.Preferred answer id ∧ s.Level victim id) ∨
    (∀ id ∈ before, s.Preferred answer id → s.Barred answer (some victim) id) ∧
      (after = [] ∧ s.Decides answer (some victim) ∨
        after ≠ [] ∧ ((∃ id ∈ after, s.Preferred answer id) ∨ s.DecidesAgain answer))

/-- The lists, victims and targets for which the choice is right. -/
def ChoosesWell : Option Nat → Prop
  | none => s.Decides answer none
  | some victim =>
    s.Preferred answer victim ∨
      ¬ s.SecondChoice answer victim ∧ s.Decides answer (some victim) ∨
      s.SecondChoice answer victim ∧
        ∃ before after, s.threatContainer = before ++ victim :: after ∧ victim ∉ before ∧
          s.DecidesAround answer victim before after

variable {s answer}

theorem wellChosen_none :
    s.WellChosen answer currentVictim none ↔
      ∀ id ∈ s.threatContainer, ¬ s.Attackable answer id := by
  refine ⟨fun h => h.someone rfl, fun h => ⟨?_, fun _ => h, ?_, ?_⟩⟩
  all_goals simp

theorem wellChosen_some (hmem : id ∈ s.threatContainer) (hattack : s.Attackable answer id)
    (hvictim : ∀ victim, currentVictim = some victim → ¬ s.Preferred answer victim) :
    s.WellChosen answer currentVictim (some id) ↔
      (s.SecondChoice answer id → ∀ other ∈ s.threatContainer, ¬ s.Preferred answer other) := by
  refine ⟨fun h => h.preferred id rfl, fun h => ⟨?_, fun hnone => ?_, ?_, ?_⟩⟩
  · rintro _ ⟨⟩
    exact ⟨hmem, hattack⟩
  · exact absurd hnone (Option.some_ne_none id)
  · rintro _ ⟨⟩
    exact h
  · intro victim _ hcurrent hpreferred
    exact absurd hpreferred (hvictim victim hcurrent)

/-- When all first choices are barred, the second pass decides. -/
theorem wellChosen_orAgain
    (hvictim : ∀ victim, currentVictim = some victim →
      victim ∈ s.threatContainer ∧ ¬ s.Preferred answer victim)
    (hbarred : ∀ id ∈ s.threatContainer, s.Preferred answer id →
      s.Barred answer currentVictim id) :
    s.WellChosen answer currentVictim (s.orAgain answer s.threatContainer currentVictim) ↔
      s.Decides answer currentVictim := by
  have hfirst : ¬ ∃ id ∈ s.threatContainer,
      s.Preferred answer id ∧ ¬ s.Barred answer currentVictim id :=
    fun ⟨id, hmem, hpreferred, hfree⟩ => hfree (hbarred id hmem hpreferred)
  rw [Decides, or_iff_right hfirst, orAgain]
  split_ifs with hends
  · rw [hends, again]
    cases hagain : s.threatContainer.findSome? (s.considerVictim answer currentVictim) with
    | none =>
      have hnone := List.findSome?_eq_none_iff.mp hagain
      have hstuck : ¬ ∃ id ∈ s.threatContainer,
          s.Attackable answer id ∧ ¬ s.Barred answer currentVictim id := by
        rintro ⟨id, hmem, hattack, hfree⟩
        exact (considerVictim_eq_none.mp (hnone id hmem)).elim (fun h => h hattack) hfree
      rw [wellChosen_none]
      constructor
      · intro hall
        exact ⟨fun id hmem h => hall id hmem h.1, fun ⟨id, hmem, h⟩ => absurd h (hall id hmem)⟩
      · intro ⟨_, hsome⟩ id hmem hattack
        exact hstuck (hsome ⟨id, hmem, hattack⟩).2
    | some chosen =>
      obtain ⟨id, hmem, htaken⟩ := List.exists_of_findSome?_eq_some hagain
      obtain ⟨hattack, hfree, hchosen, hcases⟩ := considerVictim_spec htaken
      have hin : chosen ∈ s.threatContainer ∧ ¬ s.Preferred answer chosen := by
        obtain rfl | hcurrent := hcases
        · exact ⟨hmem, fun h => hfree (hbarred chosen hmem h)⟩
        · exact hvictim chosen hcurrent
      have hsecond : s.SecondChoice answer chosen := by_contra fun h => hin.2 ⟨hchosen, h⟩
      rw [wellChosen_some hin.1 hchosen fun victim h => (hvictim victim h).2]
      constructor
      · exact fun h => ⟨h hsecond, fun _ => ⟨rfl, id, hmem, hattack, hfree⟩⟩
      · exact fun h _ => h.1
  · rw [wellChosen_none]
    constructor
    · intro hall
      exact ⟨fun id hmem h => hall id hmem h.1, fun ⟨id, hmem, h⟩ => absurd h (hall id hmem)⟩
    · intro ⟨_, hsome⟩ id hmem hattack
      exact hends (hsome ⟨id, hmem, hattack⟩).1

/-- The first pass takes no one: all first choices are barred. -/
theorem barred_of_takeFirst {ids : List Nat}
    (h : ids.findSome? (s.takeFirst answer currentVictim) = none) :
    ∀ id ∈ ids, s.Preferred answer id → s.Barred answer currentVictim id :=
  fun id hmem hpreferred =>
    (takeFirst_eq_none.mp (List.findSome?_eq_none_iff.mp h id hmem)).resolve_left
      fun hnot => hnot hpreferred

/-- Without a victim that can be attacked. -/
theorem wellChosen_free (hne : s.threatContainer ≠ [])
    (hvictim : ∀ victim, currentVictim = some victim →
      victim ∈ s.threatContainer ∧ ¬ s.SecondChoice answer victim ∧
        ¬ s.Attackable answer victim) :
    s.WellChosen answer currentVictim
        (s.selectFrom answer s.threatContainer currentVictim) ↔
      s.Decides answer currentVictim := by
  rw [selectFrom_eq hne fun id _ hsecond hcurrent => (hvictim id hcurrent).2.1 hsecond]
  cases hfirst : s.threatContainer.findSome? (s.takeFirst answer currentVictim) with
  | none =>
    rw [Option.none_or]
    exact wellChosen_orAgain
      (fun victim h => ⟨(hvictim victim h).1, fun hp => (hvictim victim h).2.2 hp.1⟩)
      (barred_of_takeFirst hfirst)
  | some chosen =>
    obtain ⟨id, hmem, htaken⟩ := List.exists_of_findSome?_eq_some hfirst
    obtain ⟨hpreferred, hconsidered⟩ := takeFirst_some htaken
    obtain ⟨-, hfree, hattack, rfl | hcurrent⟩ := considerVictim_spec hconsidered
    · rw [Option.some_or,
        wellChosen_some hmem hattack fun victim h hp => (hvictim victim h).2.2 hp.1]
      exact iff_of_true (fun h => absurd h hpreferred.2)
        (Or.inl ⟨chosen, hmem, hpreferred, hfree⟩)
    · exact absurd hattack (hvictim chosen hcurrent).2.2

/-- A victim that is an attackable first choice is left only for a target that exceeds it. -/
theorem wellChosen_kept (hmem : victim ∈ s.threatContainer) (hkept : s.Preferred answer victim) :
    s.WellChosen answer (some victim)
      (s.selectFrom answer s.threatContainer (some victim)) := by
  have hkeep : ∀ id ∈ s.threatContainer.dropLast,
      s.SecondChoice answer id → some victim ≠ some id := by
    rintro id - hsecond ⟨⟩
    exact hkept.2 hsecond
  rw [selectFrom_eq (List.ne_nil_of_mem hmem) hkeep]
  cases hfirst : s.threatContainer.findSome? (s.takeFirst answer (some victim)) with
  | none =>
    obtain ⟨_, heq, hlevel, -⟩ := barred_of_takeFirst hfirst victim hmem hkept
    exact absurd (Or.inl (Option.some.inj heq).symm) hlevel
  | some chosen =>
    obtain ⟨id, hin, htaken⟩ := List.exists_of_findSome?_eq_some hfirst
    obtain ⟨hpreferred, hconsidered⟩ := takeFirst_some htaken
    have hchosen : chosen = victim ∨
        chosen = id ∧ (chosen ≠ victim → s.Exceeds answer victim chosen) := by
      obtain ⟨-, ⟨-, ⟨-, -, rfl⟩ | ⟨hnot, rfl⟩⟩ | ⟨-, hexceeds, rfl⟩⟩ :=
        considerVictim_some.mp hconsidered
      · exact Or.inl rfl
      · exact Or.inl (by_contra fun hne => hnot ⟨Ne.symm hne, hkept.1⟩)
      · exact Or.inr ⟨rfl, fun _ => hexceeds⟩
    have hgood : chosen ∈ s.threatContainer ∧ s.Preferred answer chosen := by
      obtain rfl | ⟨rfl, -⟩ := hchosen
      · exact ⟨hmem, hkept⟩
      · exact ⟨hin, hpreferred⟩
    rw [Option.some_or]
    refine ⟨?_, fun hnone => absurd hnone (Option.some_ne_none chosen), ?_, ?_⟩
    · rintro _ ⟨⟩
      exact ⟨hgood.1, hgood.2.1⟩
    · rintro _ ⟨⟩ hsecond
      exact absurd hsecond hgood.2.2
    · rintro _ _ ⟨⟩ - ⟨⟩ hne
      obtain heq | ⟨-, hexceeds⟩ := hchosen
      · exact absurd heq hne
      · exact hexceeds hne

/-- The online list is sorted by threat. -/
def Sorted (s : ThreatManager F) : Prop :=
  s.threatContainer.Pairwise fun id other => s.getThreat other ≤ s.getThreat id

/-- What is level with the victim, and is not the victim, has no one behind it that is not. -/
theorem level_of_sorted {ids : List Nat}
    (hsorted : ids.Pairwise fun id other => s.getThreat other ≤ s.getThreat id)
    {front back : List Nat} (hids : ids = front ++ id :: back) (hlevel : s.Level victim id)
    (hne : victim ≠ id) (hmem : other ∈ back) : s.Level victim other := by
  rw [hids, List.pairwise_append, List.pairwise_cons] at hsorted
  exact Or.inr ((hsorted.2.1.1 other hmem).trans (hlevel.resolve_left hne))

/-- The second pass, with the victim forgotten, decides when no target behind it is a first
choice. -/
theorem wellChosen_forgotten
    (hvictim : ∀ victim, currentVictim = some victim → ¬ s.Preferred answer victim) :
    s.WellChosen answer currentVictim (s.orAgain answer s.threatContainer none) ↔
      s.DecidesAgain answer := by
  rw [DecidesAgain, orAgain]
  split_ifs with hends
  · rw [again_none]
    cases hfirst : s.threatContainer.find? fun id => answer.canCreatureAttack (s.targetOf id) with
    | none =>
      have hall : ∀ id ∈ s.threatContainer, ¬ s.Attackable answer id :=
        List.find?_eq_none.mp hfirst
      exact iff_of_true (wellChosen_none.mpr hall)
        (Or.inr ⟨fun id hin h => hall id hin h.1, fun _ => hends⟩)
    | some chosen =>
      have hattack : s.Attackable answer chosen :=
        List.find?_some (p := fun id => answer.canCreatureAttack (s.targetOf id)) hfirst
      rw [wellChosen_some (List.mem_of_find?_eq_some hfirst) hattack hvictim]
      constructor
      · intro h
        by_cases hsecond : s.SecondChoice answer chosen
        · exact Or.inr ⟨h hsecond, fun _ => hends⟩
        · exact Or.inl ⟨hends, chosen, rfl, hattack, hsecond⟩
      · rintro (⟨-, _, ⟨⟩, hpreferred⟩ | ⟨hall, -⟩) hsecond
        · exact absurd hsecond hpreferred.2
        · exact hall
  · rw [wellChosen_none]
    constructor
    · intro hall
      exact Or.inr ⟨fun id hin h => hall id hin h.1, fun ⟨id, hin, h⟩ => absurd h (hall id hin)⟩
    · rintro (⟨hends', -⟩ | ⟨-, hsome⟩) id hin hattack
      · exact hends hends'
      · exact hends (hsome ⟨id, hin, hattack⟩)

/-- When all first choices before the victim are barred, those behind it and the second pass
decide. -/
theorem wellChosen_behind {before after : List Nat}
    (hids : s.threatContainer = before ++ victim :: after) (hnot : victim ∉ before)
    (hsecond : s.SecondChoice answer victim)
    (hnone : before.findSome? (s.takeFirst answer (some victim)) = none) :
    s.WellChosen answer (some victim)
        (s.selectFrom answer s.threatContainer (some victim)) ↔
      (after = [] ∧ s.Decides answer (some victim) ∨
        after ≠ [] ∧ ((∃ id ∈ after, s.Preferred answer id) ∨ s.DecidesAgain answer)) := by
  have hmem : victim ∈ s.threatContainer := by simp [hids]
  have hvictim : ¬ s.Preferred answer victim := fun h => h.2 hsecond
  have hbarred := barred_of_takeFirst hnone
  obtain rfl | hne := eq_or_ne after []
  · have hkeep : ∀ id ∈ s.threatContainer.dropLast,
        s.SecondChoice answer id → some victim ≠ some id := by
      rw [hids, List.dropLast_concat]
      rintro id hin - ⟨⟩
      exact hnot hin
    have hfirst : s.threatContainer.findSome? (s.takeFirst answer (some victim)) = none := by
      rw [hids, List.findSome?_append, hnone, Option.none_or, List.findSome?_singleton,
        takeFirst_eq_none]
      exact Or.inl hvictim
    rw [selectFrom_eq (List.ne_nil_of_mem hmem) hkeep, hfirst, Option.none_or,
      wellChosen_orAgain (by rintro _ ⟨⟩; exact ⟨hmem, hvictim⟩) (barred_of_takeFirst hfirst)]
    simp
  · have hends : s.orAgain answer after none = s.orAgain answer s.threatContainer none := by
      have hlast : s.threatContainer.getLast? = after.getLast? := by
        rw [hids, List.getLast?_append_of_ne_nil _ (List.cons_ne_nil victim after),
          List.getLast?_cons_of_ne_nil hne]
      rw [orAgain, orAgain, endsSecond, endsSecond, hlast]
    have hselect : s.selectFrom answer s.threatContainer (some victim) =
        (after.findSome? (s.takeFirst answer none)).or
          (s.orAgain answer s.threatContainer none) := by
      calc s.selectFrom answer s.threatContainer (some victim)
          = s.selectFrom answer (victim :: after) (some victim) := by
            rw [hids, selectFrom_append hnot, hnone, Option.none_or]
        _ = s.selectFrom answer after none := selectFrom_forgets hne hsecond
        _ = _ := by
            rw [selectFrom_eq hne fun _ _ _ => (Option.some_ne_none _).symm, hends]
    rw [hselect]
    have hnotNil : ¬ (after = [] ∧ s.Decides answer (some victim)) := fun h => hne h.1
    rw [or_iff_right hnotNil, and_iff_right hne]
    cases hfirst : after.findSome? (s.takeFirst answer none) with
    | some chosen =>
      obtain ⟨id, hin, htaken⟩ := List.exists_of_findSome?_eq_some hfirst
      obtain ⟨hpreferred, hconsidered⟩ := takeFirst_some htaken
      obtain ⟨hattack, rfl⟩ := considerVictim_none.mp hconsidered
      have hlisted : chosen ∈ s.threatContainer := by
        rw [hids]
        exact List.mem_append_right before (List.mem_cons_of_mem victim hin)
      rw [Option.some_or, wellChosen_some hlisted hattack (by rintro _ ⟨⟩; exact hvictim)]
      exact iff_of_true (fun h => absurd h hpreferred.2) (Or.inl ⟨chosen, hin, hpreferred⟩)
    | none =>
      have hbehind : ¬ ∃ id ∈ after, s.Preferred answer id := by
        rintro ⟨id, hin, hpreferred⟩
        obtain ⟨_, heq, -⟩ := barred_of_takeFirst hfirst id hin hpreferred
        exact Option.some_ne_none _ heq.symm
      rw [Option.none_or, or_iff_right hbehind]
      exact wellChosen_forgotten (by rintro _ ⟨⟩; exact hvictim)

/-- The exact condition for a victim that is a second choice. -/
theorem wellChosen_around {before after : List Nat} (hsorted : s.Sorted)
    (hids : s.threatContainer = before ++ victim :: after) (hnot : victim ∉ before)
    (hsecond : s.SecondChoice answer victim) :
    s.WellChosen answer (some victim)
        (s.selectFrom answer s.threatContainer (some victim)) ↔
      s.DecidesAround answer victim before after := by
  have hvictim : ¬ s.Preferred answer victim := fun h => h.2 hsecond
  have hfree : ∀ id, s.Barred answer (some victim) id →
      ¬ s.Level victim id ∧ ¬ s.Exceeds answer victim id := by
    rintro id ⟨_, ⟨⟩, h⟩
    exact h
  cases hfirst : before.findSome? (s.takeFirst answer (some victim)) with
  | none =>
    have hbarred := barred_of_takeFirst hfirst
    have hnotExceeds : ¬ ∃ id ∈ before, s.Preferred answer id ∧ ¬ s.Level victim id ∧
        s.Exceeds answer victim id := by
      rintro ⟨id, hin, hpreferred, -, hexceeds⟩
      exact (hfree id (hbarred id hin hpreferred)).2 hexceeds
    have hnotLevel : ¬ (¬ s.Attackable answer victim ∧
        ∃ id ∈ before, s.Preferred answer id ∧ s.Level victim id) := by
      rintro ⟨-, id, hin, hpreferred, hlevel⟩
      exact (hfree id (hbarred id hin hpreferred)).1 hlevel
    rw [wellChosen_behind hids hnot hsecond hfirst, DecidesAround, or_iff_right hnotExceeds,
      or_iff_right hnotLevel, and_iff_right hbarred]
  | some chosen =>
    obtain ⟨front, id, back, rfl, htaken, hfront⟩ := List.findSome?_eq_some_iff.mp hfirst
    obtain ⟨hpreferred, hconsidered⟩ := takeFirst_some htaken
    have hin : id ∈ front ++ id :: back := List.mem_append_right front List.mem_cons_self
    have hlisted : id ∈ s.threatContainer := by
      rw [hids]
      exact List.mem_append_left _ hin
    have hne : victim ≠ id := fun heq => hnot (heq ▸ hin)
    have hselect : s.selectFrom answer s.threatContainer (some victim) = some chosen := by
      rw [hids, selectFrom_append hnot, hfirst, Option.some_or]
    rw [hselect]
    obtain ⟨hattack, ⟨hlevel, ⟨-, hvictimAttack, rfl⟩ | ⟨hnotKept, rfl⟩⟩ |
      ⟨hlevel, hexceeds, rfl⟩⟩ := considerVictim_some.mp hconsidered
    · -- the victim is kept although this target is a first choice
      rw [wellChosen_some (by simp [hids]) hvictimAttack (by rintro _ ⟨⟩; exact hvictim)]
      refine iff_of_false (fun h => h hsecond id hlisted hpreferred) ?_
      rintro (⟨other, hother, hpreferred', hnotLevel, hexceeds⟩ | ⟨h, -⟩ | ⟨hbarred, -⟩)
      · obtain hin' | hin' := List.mem_append.mp hother
        · have hbarred := (takeFirst_eq_none.mp (hfront other hin')).resolve_left
            fun h => h hpreferred'
          exact (hfree other hbarred).2 hexceeds
        · obtain rfl | hin' := List.mem_cons.mp hin'
          · exact hnotLevel hlevel
          · rw [Sorted, hids, List.append_assoc, List.cons_append] at hsorted
            exact hnotLevel (level_of_sorted hsorted rfl hlevel hne
              (List.mem_append_left _ hin'))
      · exact h hvictimAttack
      · exact (hfree id (hbarred id hin hpreferred)).1 hlevel
    · rw [wellChosen_some hlisted hattack (by rintro _ ⟨⟩; exact hvictim)]
      refine iff_of_true (fun h => absurd h hpreferred.2) (Or.inr (Or.inl ⟨?_, ?_⟩))
      · exact fun h => hnotKept ⟨hne, h⟩
      · exact ⟨chosen, hin, hpreferred, hlevel⟩
    · rw [wellChosen_some hlisted hattack (by rintro _ ⟨⟩; exact hvictim)]
      exact iff_of_true (fun h => absurd h hpreferred.2)
        (Or.inl ⟨chosen, hin, hpreferred, hlevel, hexceeds⟩)

/-- The choice is right exactly for these lists, victims and targets. -/
theorem selectNextVictim_wellChosen_iff (hne : s.threatContainer ≠ []) (hsorted : s.Sorted)
    (hmem : ∀ victim, s.currentVictim = some victim → victim ∈ s.threatContainer) :
    s.WellChosen answer s.currentVictim
        (s.selectFrom answer s.threatContainer s.currentVictim) ↔
      s.ChoosesWell answer s.currentVictim := by
  cases hcurrent : s.currentVictim with
  | none =>
    rw [wellChosen_free hne fun _ h => absurd h.symm (Option.some_ne_none _)]
    exact Iff.rfl
  | some victim =>
    have hin := hmem victim hcurrent
    rw [ChoosesWell]
    by_cases hsecond : s.SecondChoice answer victim
    · obtain ⟨before, after, hids, hnot⟩ := List.eq_append_cons_of_mem hin
      rw [wellChosen_around hsorted hids hnot hsecond]
      constructor
      · exact fun h => Or.inr (Or.inr ⟨hsecond, before, after, hids, hnot, h⟩)
      · rintro (h | ⟨h, -⟩ | ⟨-, before', after', hids', hnot', h⟩)
        · exact absurd hsecond h.2
        · exact absurd hsecond h
        · rwa [← wellChosen_around hsorted hids hnot hsecond,
            wellChosen_around hsorted hids' hnot' hsecond]
    · by_cases hattack : s.Attackable answer victim
      · exact iff_of_true (wellChosen_kept hin ⟨hattack, hsecond⟩)
          (Or.inl ⟨hattack, hsecond⟩)
      · rw [wellChosen_free hne (by rintro _ ⟨⟩; exact ⟨hin, hsecond, hattack⟩)]
        constructor
        · exact fun h => Or.inr (Or.inl ⟨hsecond, h⟩)
        · rintro (h | ⟨-, h⟩ | ⟨h, -⟩)
          · exact absurd h.1 hattack
          · exact h
          · exact absurd h hsecond

/-- Nobody is a second choice or in melee range, and these units can be attacked. -/
def rangedAnswer (canCreatureAttack : Nat → Bool) : Answer ℚ where
  isValidProcess := true
  calcThreat := fun threat => threat
  redirectThreatPercent := 0
  redirectThreatTarget := none
  isGameMaster := false
  isFound := true
  isInFlight := false
  isInMap := true
  inSamePhase := true
  isInAccessiblePlace := true
  isWithinCombatRange := true
  charmerOrOwner := none
  isOwnerAlive := false
  isSecondChoice := fun _ => false
  canCreatureAttack := canCreatureAttack
  isWithinMeleeRange := fun _ => false

/-- A victim with 100 threat, and before it a target with 120. -/
def challenged : ThreatManager ℚ where
  refs := (OrderedMap.empty.insert 0 ⟨10, 100, 0, true, true, true⟩).insert 1
    ⟨11, 120, 0, true, true, true⟩
  nextRef := 2
  threatContainer := [1, 0]
  threatOfflineContainer := []
  isDirty := false
  currentVictim := some 0
  asked := 0

theorem sorted_challenged : challenged.Sorted :=
  List.pairwise_pair.mpr (by decide)

/-- The victim is kept while it can be attacked. -/
theorem wellChosen_challenged :
    challenged.WellChosen (rangedAnswer fun _ => true) (some 0)
      (challenged.selectFrom (rangedAnswer fun _ => true) [1, 0] (some 0)) :=
  (selectNextVictim_wellChosen_iff (List.cons_ne_nil 1 [0]) sorted_challenged (by decide)).mpr
    (Or.inl ⟨rfl, Bool.false_ne_true⟩)

/-- A victim that cannot be attacked bars a target between 110 % and 130 %: no one is chosen,
although that target can be attacked. -/
theorem barredTarget_notChosen :
    challenged.threatContainer ≠ [] ∧ challenged.Sorted ∧ 0 ∈ challenged.threatContainer ∧
      challenged.selectFrom (rangedAnswer fun unit => unit == 11) [1, 0] (some 0) = none ∧
      ¬ challenged.WellChosen (rangedAnswer fun unit => unit == 11) (some 0)
        (challenged.selectFrom (rangedAnswer fun unit => unit == 11) [1, 0] (some 0)) := by
  have hnone : challenged.selectFrom (rangedAnswer fun unit => unit == 11) [1, 0] (some 0) =
      none := by decide +kernel
  refine ⟨by decide, sorted_challenged, by decide, hnone, fun h => ?_⟩
  exact h.someone hnone 1 (by decide) rfl

end ThreatManager

end Cataclysm.Combat
