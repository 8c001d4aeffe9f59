import Cataclysm.DungeonFinding.LFGQueue

/-!
# The role solver

`CheckGroupRoles` searches for one role for every player of a group. It scans the players
in order and counts those with a single role; when it meets a player with several roles it
takes one of them out of the map, starts again, and puts the role back when that fails.
Every inner search has one role less to decide. The search finds an assignment whenever
there is one, and leaves the map as it was when there is none.

## Implementation notes

The counters and the size of the map are compared as `uint8`, so the results hold for maps
of at most 255 players. An empty map is refused at once.
-/

namespace Cataclysm.Lfg

/-- The roles that a player can be given, in the order in which they are tried. -/
def combatRoles : List UInt8 := [playerRoleDamage, playerRoleHealer, playerRoleTank]

/-- The roles of a player without the wish to lead. -/
def combatRole (role : UInt8) : UInt8 := role &&& ~~~playerRoleLeader

/-- How many players of a role a dungeon takes. -/
def LFGDungeonData.required (dungeon : LFGDungeonData) (bit : UInt8) : Nat :=
  if bit = playerRoleTank then dungeon.requiredTanks
  else if bit = playerRoleHealer then dungeon.requiredHeals
  else dungeon.requiredDamagedealers

/-- Only the four roles are selected. -/
def RolesOnly (groles : LfgRolesMap) : Prop :=
  ∀ guid role, groles.find? guid = some role → role < 16

/-- Every player gets one of the roles that he selected, and no role is given too often. -/
structure IsAssignment (dungeon : LFGDungeonData) (groles : LfgRolesMap)
    (role : Guid → UInt8) : Prop where
  combat : ∀ guid ∈ groles.keys, role guid ∈ combatRoles
  selected : ∀ guid selected, groles.find? guid = some selected → selected &&& role guid ≠ 0
  tanks : (groles.keys.countP fun guid => role guid = playerRoleTank) ≤ dungeon.requiredTanks
  healers : (groles.keys.countP fun guid => role guid = playerRoleHealer) ≤
    dungeon.requiredHeals
  damage : (groles.keys.countP fun guid => role guid = playerRoleDamage) ≤
    dungeon.requiredDamagedealers

/-- The map in which every player keeps his wish to lead and the role that he is given. -/
def assign (groles : LfgRolesMap) (role : Guid → UInt8) : LfgRolesMap :=
  groles.mapValues fun guid selected => (selected &&& playerRoleLeader) ||| role guid

/-- A correct answer: an assignment in the map, or the same map when there is none. -/
def Solves (dungeon : LFGDungeonData) (groles : LfgRolesMap) : Bool × LfgRolesMap → Prop
  | (true, assigned) => ∃ role, IsAssignment dungeon groles role ∧ assigned = assign groles role
  | (false, unchanged) => unchanged = groles ∧ ∀ role, ¬ IsAssignment dungeon groles role

/-! ## Single roles -/

variable {role bit : UInt8}

theorem forall_lt {P : UInt8 → Prop} [DecidablePred P] (bound : Nat)
    (h : ((List.range bound).all fun n => decide (P (UInt8.ofNat n))) = true)
    (hrole : role.toNat < bound) : P role := by
  have hof := of_decide_eq_true (List.all_eq_true.mp h role.toNat (List.mem_range.mpr hrole))
  rwa [UInt8.ofNat_toNat] at hof

theorem forall_lt_bit {P : UInt8 → UInt8 → Prop} [∀ bit role, Decidable (P bit role)]
    (bound : Nat)
    (h : (combatRoles.all fun bit =>
      (List.range bound).all fun n => decide (P bit (UInt8.ofNat n))) = true)
    (hrole : role.toNat < bound) (hbit : bit ∈ combatRoles) : P bit role :=
  forall_lt bound (List.all_eq_true.mp h bit hbit) hrole

theorem forall_role_bit {P : UInt8 → UInt8 → Prop} [∀ bit role, Decidable (P bit role)]
    (h : (combatRoles.all fun bit =>
      (List.range 16).all fun n => decide (P bit (UInt8.ofNat n))) = true) (hrole : role < 16)
    (hbit : bit ∈ combatRoles) : P bit role :=
  forall_lt_bit 16 h hrole hbit

theorem combatRole_and (hrole : role < 16) (hbit : bit ∈ combatRoles) :
    combatRole role &&& bit = role &&& bit :=
  forall_role_bit (P := fun bit role => combatRole role &&& bit = role &&& bit)
    rfl hrole hbit

theorem sub_lt (hrole : role < 16) (hbit : bit ∈ combatRoles) (hset : role &&& bit ≠ 0) :
    role - bit < 16 :=
  forall_role_bit (P := fun bit role => role &&& bit ≠ 0 → role - bit < 16)
    rfl hrole hbit hset

theorem sub_leader (hrole : role < 16) (hbit : bit ∈ combatRoles) (hset : role &&& bit ≠ 0) :
    (role - bit) &&& playerRoleLeader = role &&& playerRoleLeader :=
  forall_role_bit (P := fun bit role => role &&& bit ≠ 0 →
    (role - bit) &&& playerRoleLeader = role &&& playerRoleLeader)
    rfl hrole hbit hset

/-- A role that is taken out leaves the others. -/
theorem sub_and {other : UInt8} (hrole : role < 16) (hbit : bit ∈ combatRoles)
    (hother : other ∈ combatRoles) (hset : role &&& bit ≠ 0) :
    (role - bit) &&& other ≠ 0 ↔ role &&& other ≠ 0 ∧ other ≠ bit := by
  have hall := forall_role_bit (P := fun bit role => role &&& bit ≠ 0 →
    (combatRoles.all fun other => ((role - bit) &&& other != 0) ==
      ((role &&& other != 0) && (other != bit))) = true)
    rfl hrole hbit hset
  have heq := eq_of_beq (List.all_eq_true.mp hall other hother)
  rw [← bne_iff_ne, heq, Bool.and_eq_true, bne_iff_ne, bne_iff_ne]

/-- A player with a single role can only be given that role. -/
theorem single_and {other : UInt8} (hrole : role < 16) (hother : other ∈ combatRoles)
    (hsingle : combatRole role ∈ combatRoles) (hset : role &&& other ≠ 0) :
    other = combatRole role :=
  forall_role_bit (P := fun other role => combatRole role ∈ combatRoles →
    role &&& other ≠ 0 → other = combatRole role) rfl hrole hother hsingle hset

theorem single_selected (hrole : role < 16) (hsingle : combatRole role ∈ combatRoles) :
    role &&& combatRole role ≠ 0 :=
  forall_lt (P := fun role => combatRole role ∈ combatRoles → role &&& combatRole role ≠ 0)
    16 rfl hrole hsingle

theorem leader_or_combatRole (hrole : role < 16) :
    (role &&& playerRoleLeader) ||| combatRole role = role :=
  forall_lt (P := fun role => (role &&& playerRoleLeader) ||| combatRole role = role)
    16 rfl hrole

/-- A player with several roles has another one beside each of them. -/
theorem several_roles (hrole : role < 16) (hbit : bit ∈ combatRoles) (hset : role &&& bit ≠ 0)
    (hseveral : combatRole role ∉ combatRoles) :
    ∃ other ∈ combatRoles, role &&& other ≠ 0 ∧ other ≠ bit := by
  have hany := forall_role_bit (P := fun bit role => role &&& bit ≠ 0 →
    combatRole role ∉ combatRoles →
      combatRoles.any (fun other => role &&& other != 0 && other != bit) = true)
    rfl hrole hbit hset hseveral
  obtain ⟨other, hother, hboth⟩ := List.any_eq_true.mp hany
  rw [Bool.and_eq_true, bne_iff_ne, bne_iff_ne] at hboth
  exact ⟨other, hother, hboth⟩

theorem combatRole_eq_zero (hrole : role < 16) (hbit : bit ∈ combatRoles)
    (hzero : combatRole role = 0) : role &&& bit = 0 := by
  rw [← combatRole_and hrole hbit, hzero, UInt8.zero_and]

/-! ## What is left to decide -/

/-- The number of roles that a player selected. -/
def roleBits (role : UInt8) : Nat := combatRoles.countP fun bit => role &&& bit ≠ 0

/-- The number of roles that all players selected. -/
def selectedRoles (groles : LfgRolesMap) : Nat := groles.sumValues roleBits

theorem roleBits_sub (hrole : role < 16) (hbit : bit ∈ combatRoles) (hset : role &&& bit ≠ 0) :
    roleBits (role - bit) < roleBits role :=
  forall_role_bit (P := fun bit role => role &&& bit ≠ 0 → roleBits (role - bit) < roleBits role)
    rfl hrole hbit hset

theorem selectedRoles_le (groles : LfgRolesMap) :
    selectedRoles groles ≤ 3 * groles.entries.length := by
  rw [selectedRoles, OrderedMap.sumValues]
  generalize groles.entries = entries
  induction entries with
  | nil => exact le_refl _
  | cons entry rest ih =>
    have hle : roleBits entry.2 ≤ 3 := List.countP_le_length
    rw [List.map_cons, List.sum_cons, List.length_cons]
    omega

section Reduce

variable {dungeon : LFGDungeonData} {groles : LfgRolesMap} {guid : Guid} {selected bit : UInt8}

theorem rolesOnly_reduce (hroles : RolesOnly groles) (hfind : groles.find? guid = some selected)
    (hbit : bit ∈ combatRoles) (hset : selected &&& bit ≠ 0) :
    RolesOnly (groles.insert guid (selected - bit)) := by
  intro other role hother
  rw [OrderedMap.find?_insert] at hother
  split at hother
  · obtain rfl := Option.some.inj hother
    exact sub_lt (hroles guid selected hfind) hbit hset
  · exact hroles other role hother

theorem selectedRoles_reduce (hroles : RolesOnly groles)
    (hfind : groles.find? guid = some selected) (hbit : bit ∈ combatRoles)
    (hset : selected &&& bit ≠ 0) :
    selectedRoles (groles.insert guid (selected - bit)) < selectedRoles groles := by
  have hsum := groles.sumValues_insert guid (selected - bit) roleBits
  have hless := roleBits_sub (hroles guid selected hfind) hbit hset
  rw [hfind, Option.map_some, Option.getD_some] at hsum
  rw [selectedRoles, selectedRoles]
  omega

/-- An assignment without a role is one with it. -/
theorem IsAssignment.of_reduce (hroles : RolesOnly groles)
    (hfind : groles.find? guid = some selected) (hbit : bit ∈ combatRoles)
    (hset : selected &&& bit ≠ 0) {role : Guid → UInt8}
    (h : IsAssignment dungeon (groles.insert guid (selected - bit)) role) :
    IsAssignment dungeon groles role := by
  obtain ⟨hcombat, hselected, htanks, hhealers, hdamage⟩ := h
  rw [OrderedMap.keys_insert hfind] at hcombat htanks hhealers hdamage
  refine ⟨hcombat, ?_, htanks, hhealers, hdamage⟩
  intro other chosen hother
  have hnew := groles.find?_insert guid other (selected - bit)
  by_cases hsame : other = guid
  · subst hsame
    rw [if_pos rfl] at hnew
    obtain rfl := Option.some.inj (hfind.symm.trans hother)
    have hrole := hcombat other (OrderedMap.mem_keys.mpr (OrderedMap.contains_of_find? hfind))
    exact ((sub_and (hroles other selected hfind) hbit hrole hset).mp (hselected _ _ hnew)).1
  · rw [if_neg hsame] at hnew
    exact hselected other chosen (hnew.trans hother)

/-- An assignment that gives a player another role does not need the one taken out. -/
theorem IsAssignment.reduce (hroles : RolesOnly groles)
    (hfind : groles.find? guid = some selected) (hbit : bit ∈ combatRoles)
    (hset : selected &&& bit ≠ 0) {role : Guid → UInt8} (h : IsAssignment dungeon groles role)
    (hne : role guid ≠ bit) :
    IsAssignment dungeon (groles.insert guid (selected - bit)) role := by
  have hkeys := OrderedMap.keys_insert hfind (selected - bit)
  refine ⟨?_, ?_, ?_, ?_, ?_⟩
  · rw [hkeys]
    exact h.combat
  · intro other chosen hother
    rw [OrderedMap.find?_insert] at hother
    split at hother
    · next hsame =>
      subst hsame
      obtain rfl := Option.some.inj hother
      have hrole := h.combat other (OrderedMap.mem_keys.mpr (OrderedMap.contains_of_find? hfind))
      exact (sub_and (hroles other selected hfind) hbit hrole hset).mpr
        ⟨h.selected other selected hfind, hne⟩
    · exact h.selected other chosen hother
  · rw [hkeys]
    exact h.tanks
  · rw [hkeys]
    exact h.healers
  · rw [hkeys]
    exact h.damage

theorem assign_reduce (hroles : RolesOnly groles) (hfind : groles.find? guid = some selected)
    (hbit : bit ∈ combatRoles) (hset : selected &&& bit ≠ 0) (role : Guid → UInt8) :
    assign (groles.insert guid (selected - bit)) role = assign groles role := by
  refine OrderedMap.ext_find? ?_
  intro other
  rw [assign, assign, OrderedMap.find?_mapValues, OrderedMap.find?_mapValues,
    OrderedMap.find?_insert]
  split
  · next hsame =>
    subst hsame
    rw [hfind, Option.map_some, Option.map_some, sub_leader (hroles _ _ hfind) hbit hset]
  · rfl

end Reduce

/-! ## The scan -/

/-- The players so far who selected one role alone. -/
def singles (groles : LfgRolesMap) (done : List Guid) (bit : UInt8) : Nat :=
  done.countP fun guid => combatRole ((groles.find? guid).getD 0) = bit

/-- What the scan knows of the players before the current one. -/
structure Scanned (dungeon : LFGDungeonData) (groles : LfgRolesMap) (done rest : List Guid) :
    Prop where
  keys : groles.keys = done ++ rest
  room : ∀ bit ∈ combatRoles, singles groles done bit ≤ dungeon.required bit
  several : ∀ guid ∈ done, combatRole ((groles.find? guid).getD 0) ∉ combatRoles →
    ∀ role, ¬ IsAssignment dungeon groles role

/-- The search is right for every map with fewer selected roles. -/
def SolvesSmaller (dungeon : LFGDungeonData) (groles : LfgRolesMap)
    (retry : LfgRolesMap → Bool × LfgRolesMap) : Prop :=
  ∀ reduced, RolesOnly reduced → reduced.keys = groles.keys →
    selectedRoles reduced < selectedRoles groles → Solves dungeon reduced (retry reduced)

section Scan

variable {dungeon : LFGDungeonData} {groles : LfgRolesMap} {done rest : List Guid}
  {guid : Guid} {selected bit : UInt8}

theorem IsAssignment.count_le {role : Guid → UInt8} (h : IsAssignment dungeon groles role)
    (hbit : bit ∈ combatRoles) :
    (groles.keys.countP fun guid => role guid = bit) ≤ dungeon.required bit := by
  rw [combatRoles, List.mem_cons, List.mem_cons, List.mem_singleton] at hbit
  rcases hbit with rfl | rfl | rfl
  · exact h.damage
  · exact h.healers
  · exact h.tanks

theorem singles_snoc (hfind : groles.find? guid = some selected) (bit : UInt8) :
    singles groles (done ++ [guid]) bit =
      singles groles done bit + if combatRole selected = bit then 1 else 0 := by
  rw [singles, singles, List.countP_append, List.countP_singleton, hfind, Option.getD_some]
  by_cases h : combatRole selected = bit
  · rw [if_pos h, if_pos (decide_eq_true h)]
  · rw [if_neg h, if_neg (by rw [decide_eq_false h]; exact Bool.false_ne_true)]

theorem find?_of_mem_keys (h : guid ∈ groles.keys) :
    ∃ selected, groles.find? guid = some selected := by
  have hcontains := OrderedMap.mem_keys.mp h
  exact Option.isSome_iff_exists.mp hcontains

/-- One player too many has a role alone. -/
theorem no_room (hroles : RolesOnly groles) (hscan : Scanned dungeon groles done (guid :: rest))
    (hfind : groles.find? guid = some selected) (hbit : combatRole selected = bit)
    (hmem : bit ∈ combatRoles) (hfull : singles groles done bit = dungeon.required bit)
    (role : Guid → UInt8) : ¬ IsAssignment dungeon groles role := by
  intro h
  have hsingle : ∀ other ∈ groles.keys,
      decide (combatRole ((groles.find? other).getD 0) = bit) = true →
        decide (role other = bit) = true := by
    intro other hother hdecide
    obtain ⟨chosen, hchosen⟩ := find?_of_mem_keys hother
    rw [hchosen, Option.getD_some, decide_eq_true_eq] at hdecide
    have hsame := single_and (hroles other chosen hchosen) (h.combat other hother)
      (hdecide ▸ hmem) (h.selected other chosen hchosen)
    exact decide_eq_true (hsame.trans hdecide)
  have hcount := List.countP_mono_left hsingle
  have hlimit := h.count_le hmem
  have hhead : singles groles (guid :: rest) bit = singles groles rest bit + 1 := by
    rw [singles, List.countP_cons, hfind, Option.getD_some, if_pos (decide_eq_true hbit)]
    rfl
  have hall : (groles.keys.countP fun other =>
      combatRole ((groles.find? other).getD 0) = bit) =
        singles groles done bit + singles groles (guid :: rest) bit := by
    rw [hscan.keys, List.countP_append]
    rfl
  omega

/-- One of the three blocks for a player: it ends the search rightly, or goes on with the
same map when the player cannot do without the role. -/
theorem countRole_spec {retry : LfgRolesMap → Bool × LfgRolesMap} (hroles : RolesOnly groles)
    (hretry : SolvesSmaller dungeon groles retry) (hsize : groles.keys.length ≤ 255)
    (hscan : Scanned dungeon groles done (guid :: rest))
    (hfind : groles.find? guid = some selected) (hbit : bit ∈ combatRoles) :
    (∃ result, countRole retry (combatRole selected) bit (dungeon.required bit) guid groles
        (singles groles done bit) = .error result ∧ Solves dungeon groles result) ∨
      (countRole retry (combatRole selected) bit (dungeon.required bit) guid groles
          (singles groles done bit) = .ok (groles, singles groles (done ++ [guid]) bit) ∧
        (combatRole selected = bit → singles groles done bit < dungeon.required bit) ∧
        (selected &&& bit ≠ 0 → combatRole selected ≠ bit →
          ∀ role, ¬ IsAssignment dungeon (groles.insert guid (selected - bit)) role)) := by
  have hselected := hroles guid selected hfind
  have hand := combatRole_and hselected hbit
  rw [countRole, singles_snoc hfind]
  by_cases hzero : combatRole selected &&& bit = 0
  · have hne : combatRole selected ≠ bit := by
      intro heq
      have hset := single_selected hselected (heq ▸ hbit)
      rw [heq, ← hand, hzero] at hset
      exact hset rfl
    rw [if_pos hzero, if_neg hne]
    exact Or.inr ⟨rfl, fun h => absurd h hne, fun hset => absurd (hand ▸ hzero) hset⟩
  have hset : selected &&& bit ≠ 0 := hand ▸ hzero
  rw [if_neg hzero]
  by_cases hne : combatRole selected ≠ bit
  · rw [if_pos hne, if_neg hne, hfind, Option.getD_some]
    have hsmaller := hretry (groles.insert guid (selected - bit))
      (rolesOnly_reduce hroles hfind hbit hset) (OrderedMap.keys_insert hfind _)
      (selectedRoles_reduce hroles hfind hbit hset)
    generalize retry (groles.insert guid (selected - bit)) = result at hsmaller ⊢
    obtain ⟨_ | _, map⟩ := result
    · obtain ⟨rfl, hnone⟩ := hsmaller
      right
      refine ⟨?_, fun h => absurd h hne, fun _ _ => hnone⟩
      dsimp only
      rw [OrderedMap.find?_insert_self, Option.getD_some, UInt8.sub_add_cancel,
        OrderedMap.insert_insert, OrderedMap.insert_of_find? hfind]
      rfl
    · obtain ⟨role, hrole, rfl⟩ := hsmaller
      left
      refine ⟨_, rfl, role, hrole.of_reduce hroles hfind hbit hset, ?_⟩
      exact assign_reduce hroles hfind hbit hset role
  · have heq : combatRole selected = bit := not_not.mp hne
    rw [if_neg hne]
    by_cases hfull : singles groles done bit = dungeon.required bit
    · rw [if_pos hfull]
      exact Or.inl ⟨_, rfl, rfl, no_room hroles hscan hfind heq hbit hfull⟩
    · rw [if_neg hfull, if_pos heq]
      have hlength : singles groles done bit ≤ done.length := List.countP_le_length
      have hkeys := congrArg List.length hscan.keys
      rw [List.length_append, List.length_cons] at hkeys
      have hmod : (singles groles done bit + 1) % 256 = singles groles done bit + 1 :=
        Nat.mod_eq_of_lt (by omega)
      rw [hmod]
      have hroom := hscan.room bit hbit
      exact Or.inr ⟨rfl, fun _ => by omega, fun _ h => absurd heq h⟩

/-- The scan stands at the next player with the same map. -/
theorem Scanned.next (hroles : RolesOnly groles)
    (hscan : Scanned dungeon groles done (guid :: rest))
    (hfind : groles.find? guid = some selected)
    (hroom : ∀ bit ∈ combatRoles, combatRole selected = bit →
      singles groles done bit < dungeon.required bit)
    (hfailed : ∀ bit ∈ combatRoles, selected &&& bit ≠ 0 → combatRole selected ≠ bit →
      ∀ role, ¬ IsAssignment dungeon (groles.insert guid (selected - bit)) role) :
    Scanned dungeon groles (done ++ [guid]) rest := by
  refine ⟨?_, ?_, ?_⟩
  · rw [hscan.keys, List.append_assoc]
    rfl
  · intro bit hbit
    rw [singles_snoc hfind]
    split
    · next heq => exact hroom bit hbit heq
    · exact hscan.room bit hbit
  · intro other hother hseveral role hrole
    rcases List.mem_append.mp hother with hbefore | hlast
    · exact hscan.several other hbefore hseveral role hrole
    · obtain rfl := List.mem_singleton.mp hlast
      rw [hfind, Option.getD_some] at hseveral
      have hselected := hroles other selected hfind
      have hkey : other ∈ groles.keys :=
        OrderedMap.mem_keys.mpr (OrderedMap.contains_of_find? hfind)
      obtain ⟨bit, hbit, hset, hne⟩ := several_roles hselected (hrole.combat other hkey)
        (hrole.selected other selected hfind) hseveral
      have hsingle : combatRole selected ≠ bit := fun h => hseveral (h ▸ hbit)
      exact hfailed bit hbit hset hsingle role (hrole.reduce hroles hfind hbit hset hne.symm)

theorem singles_sum (groles : LfgRolesMap) (done : List Guid) :
    singles groles done playerRoleTank + singles groles done playerRoleHealer +
      singles groles done playerRoleDamage =
        done.countP fun guid => combatRole ((groles.find? guid).getD 0) ∈ combatRoles := by
  have hone : ∀ role : UInt8, (if role = playerRoleTank then 1 else 0) +
      (if role = playerRoleHealer then 1 else 0) + (if role = playerRoleDamage then 1 else 0) =
        if role ∈ combatRoles then 1 else 0 := by
    intro role
    by_cases htank : role = playerRoleTank
    · subst htank
      decide
    by_cases hhealer : role = playerRoleHealer
    · subst hhealer
      decide
    by_cases hdamage : role = playerRoleDamage
    · subst hdamage
      decide
    simp [combatRoles, htank, hhealer, hdamage]
  induction done with
  | nil => rfl
  | cons guid rest ih =>
    have hguid := hone (combatRole ((groles.find? guid).getD 0))
    simp only [singles, List.countP_cons, decide_eq_true_eq] at ih ⊢
    omega

/-- At the end of the scan the counters reach the number of players when everybody has one
role alone. -/
theorem Scanned.solves (hroles : RolesOnly groles) (hsize : groles.keys.length ≤ 255)
    (hscan : Scanned dungeon groles done []) :
    Solves dungeon groles
      (singles groles done playerRoleTank + singles groles done playerRoleHealer +
        singles groles done playerRoleDamage = groles.entries.length % 256, groles) := by
  have hkeys : groles.keys = done := hscan.keys.trans (List.append_nil done)
  have hlength : groles.entries.length % 256 = done.length := by
    rw [← hkeys, OrderedMap.keys, List.length_map]
    rw [OrderedMap.keys, List.length_map] at hsize
    omega
  rw [singles_sum, hlength]
  by_cases hall : (done.countP fun guid =>
      combatRole ((groles.find? guid).getD 0) ∈ combatRoles) = done.length
  · rw [decide_eq_true hall]
    have hsingle := List.countP_eq_length.mp hall
    have hvalue : ∀ guid selected, groles.find? guid = some selected →
        combatRole selected ∈ combatRoles := by
      intro guid selected hfind
      have hkey : guid ∈ groles.keys :=
        OrderedMap.mem_keys.mpr (OrderedMap.contains_of_find? hfind)
      have hmem := of_decide_eq_true (hsingle guid (hkeys ▸ hkey))
      rw [hfind] at hmem
      exact hmem
    refine ⟨fun guid => combatRole ((groles.find? guid).getD 0), ⟨?_, ?_, ?_, ?_, ?_⟩, ?_⟩
    · intro guid hguid
      obtain ⟨selected, hfind⟩ := find?_of_mem_keys hguid
      rw [hfind]
      exact hvalue guid selected hfind
    · intro guid selected hfind
      rw [hfind]
      exact single_selected (hroles guid selected hfind) (hvalue guid selected hfind)
    · rw [hkeys]
      exact hscan.room playerRoleTank (by decide)
    · rw [hkeys]
      exact hscan.room playerRoleHealer (by decide)
    · rw [hkeys]
      exact hscan.room playerRoleDamage (by decide)
    · refine OrderedMap.ext_find? ?_
      intro guid
      rw [assign, OrderedMap.find?_mapValues]
      rcases hfind : groles.find? guid with _ | selected
      · rfl
      · exact congrArg some (leader_or_combatRole (hroles guid selected hfind)).symm
  · rw [decide_eq_false hall]
    refine ⟨rfl, ?_⟩
    have hsome : ∃ guid ∈ done, combatRole ((groles.find? guid).getD 0) ∉ combatRoles := by
      by_contra hnone
      push Not at hnone
      exact hall (List.countP_eq_length.mpr fun guid hguid => decide_eq_true (hnone guid hguid))
    obtain ⟨guid, hguid, hseveral⟩ := hsome
    exact hscan.several guid hguid hseveral

end Scan

variable {groles : LfgRolesMap} {selected : UInt8} {dungeon : LFGDungeonData}
  {done rest : List Guid}

/-- What `CheckGroupRoles` returns after its scan. -/
def scanResult : Except (Bool × LfgRolesMap) (Bool × LfgRolesMap) → Bool × LfgRolesMap
  | .error result => result
  | .ok result => result

/-- The three blocks for a player. -/
theorem countRoles_cons (dungeon : LFGDungeonData) (retry : LfgRolesMap → Bool × LfgRolesMap)
    {guid : Guid} (hfind : groles.find? guid = some selected) (rest : List Guid)
    (damage healer tank : Nat) :
    countRoles dungeon retry (guid :: rest) groles damage healer tank =
      if combatRole selected = 0 then .error (false, groles)
      else
        (countRole retry (combatRole selected) playerRoleDamage
          (dungeon.required playerRoleDamage) guid groles damage).bind fun first =>
            (countRole retry (combatRole selected) playerRoleHealer
              (dungeon.required playerRoleHealer) guid first.1 healer).bind fun second =>
                (countRole retry (combatRole selected) playerRoleTank
                  (dungeon.required playerRoleTank) guid second.1 tank).bind fun third =>
                    countRoles dungeon retry rest third.1 first.2 second.2 third.2 := by
  rw [countRoles, hfind]
  rfl

theorem countRoles_spec {retry : LfgRolesMap → Bool × LfgRolesMap} (hroles : RolesOnly groles)
    (hretry : SolvesSmaller dungeon groles retry) (hsize : groles.keys.length ≤ 255)
    (hscan : Scanned dungeon groles done rest) :
    Solves dungeon groles (scanResult (countRoles dungeon retry rest groles
      (singles groles done playerRoleDamage) (singles groles done playerRoleHealer)
      (singles groles done playerRoleTank))) := by
  induction rest generalizing done with
  | nil => exact hscan.solves hroles hsize
  | cons guid rest ih =>
    have hkey : guid ∈ groles.keys := by
      rw [hscan.keys]
      exact List.mem_append_right _ List.mem_cons_self
    obtain ⟨selected, hfind⟩ := find?_of_mem_keys hkey
    have hdamage := countRole_spec hroles hretry hsize hscan hfind
      (show playerRoleDamage ∈ combatRoles by decide)
    have hhealer := countRole_spec hroles hretry hsize hscan hfind
      (show playerRoleHealer ∈ combatRoles by decide)
    have htank := countRole_spec hroles hretry hsize hscan hfind
      (show playerRoleTank ∈ combatRoles by decide)
    rw [countRoles_cons dungeon retry hfind]
    split
    · next hzero =>
      refine ⟨rfl, fun role hrole => hrole.selected guid selected hfind ?_⟩
      exact combatRole_eq_zero (hroles guid selected hfind) (hrole.combat guid hkey) hzero
    rcases hdamage with ⟨result, heq, hsolves⟩ | ⟨heq, hdamageRoom, hdamageFailed⟩
    · rw [heq]
      exact hsolves
    rw [heq, Except.bind]
    rcases hhealer with ⟨result, heq, hsolves⟩ | ⟨heq, hhealerRoom, hhealerFailed⟩
    · rw [heq]
      exact hsolves
    rw [heq, Except.bind]
    rcases htank with ⟨result, heq, hsolves⟩ | ⟨heq, htankRoom, htankFailed⟩
    · rw [heq]
      exact hsolves
    rw [heq, Except.bind]
    apply ih
    refine hscan.next hroles hfind ?_ ?_
    · intro bit hbit
      rw [combatRoles, List.mem_cons, List.mem_cons, List.mem_singleton] at hbit
      rcases hbit with rfl | rfl | rfl
      · exact hdamageRoom
      · exact hhealerRoom
      · exact htankRoom
    · intro bit hbit
      rw [combatRoles, List.mem_cons, List.mem_cons, List.mem_singleton] at hbit
      rcases hbit with rfl | rfl | rfl
      · exact hdamageFailed
      · exact hhealerFailed
      · exact htankFailed

/-! ## The search -/

/-- With fuel for every selected role the search is right. -/
theorem checkRoles_spec {fuel : Nat} (hroles : RolesOnly groles) (hsome : groles.keys ≠ [])
    (hsize : groles.keys.length ≤ 255) (hfuel : selectedRoles groles < fuel) :
    Solves dungeon groles (checkRoles dungeon fuel groles) := by
  induction fuel generalizing groles with
  | zero => exact absurd hfuel (Nat.not_lt_zero _)
  | succ fuel ih =>
    have hentries : ¬ groles.entries.isEmpty = true := by
      intro hempty
      rw [List.isEmpty_iff] at hempty
      exact hsome (List.map_eq_nil_iff.mpr hempty)
    have hretry : SolvesSmaller dungeon groles (checkRoles dungeon fuel) := by
      intro reduced hreduced hkeys hless
      exact ih hreduced (hkeys ▸ hsome) (hkeys ▸ hsize) (by omega)
    have hstart : Scanned dungeon groles [] groles.keys :=
      ⟨rfl, fun _ _ => Nat.zero_le _, fun _ h => nomatch h⟩
    have hscan := countRoles_spec hroles hretry hsize hstart
    rw [checkRoles, if_neg hentries]
    exact hscan

section Fuel

variable {dungeon : LFGDungeonData} {retry retry' : LfgRolesMap → Bool × LfgRolesMap}
  {groles : LfgRolesMap}

/-- Two searches that agree on the maps with fewer selected roles. -/
def AgreeSmaller (groles : LfgRolesMap) (retry retry' : LfgRolesMap → Bool × LfgRolesMap) :
    Prop :=
  ∀ reduced, RolesOnly reduced → reduced.keys = groles.keys →
    selectedRoles reduced < selectedRoles groles → retry reduced = retry' reduced

/-- A block calls the search on a smaller map and leaves the map as it is when it goes on. -/
theorem countRole_agree (hroles : RolesOnly groles) (hretry : SolvesSmaller dungeon groles retry')
    (hagree : AgreeSmaller groles retry retry') {guid : Guid}
    (hfind : groles.find? guid = some selected) (hbit : bit ∈ combatRoles) (required count : Nat) :
    countRole retry (combatRole selected) bit required guid groles count =
        countRole retry' (combatRole selected) bit required guid groles count ∧
      ∀ result, countRole retry' (combatRole selected) bit required guid groles count =
        .ok result → result.1 = groles := by
  have hselected := hroles guid selected hfind
  have hand := combatRole_and hselected hbit
  rw [countRole, countRole]
  split
  · refine ⟨rfl, ?_⟩
    rintro result ⟨⟩
    rfl
  next hzero =>
  have hset : selected &&& bit ≠ 0 := hand ▸ hzero
  split
  · rw [hfind, Option.getD_some]
    have hreduced := rolesOnly_reduce hroles hfind hbit hset
    have hkeys := OrderedMap.keys_insert hfind (selected - bit)
    have hless := selectedRoles_reduce hroles hfind hbit hset
    rw [hagree _ hreduced hkeys hless]
    have hsmaller := hretry _ hreduced hkeys hless
    generalize retry' (groles.insert guid (selected - bit)) = result at hsmaller ⊢
    obtain ⟨_ | _, map⟩ := result
    · obtain ⟨rfl, -⟩ := hsmaller
      refine ⟨rfl, ?_⟩
      rintro result ⟨⟩
      dsimp only
      rw [OrderedMap.find?_insert_self, Option.getD_some, UInt8.sub_add_cancel,
        OrderedMap.insert_insert, OrderedMap.insert_of_find? hfind]
    · exact ⟨rfl, nofun⟩
  · split
    · exact ⟨rfl, nofun⟩
    · refine ⟨rfl, ?_⟩
      rintro result ⟨⟩
      rfl

theorem countRoles_agree (hroles : RolesOnly groles)
    (hretry : SolvesSmaller dungeon groles retry') (hagree : AgreeSmaller groles retry retry')
    (hrest : ∀ guid ∈ rest, guid ∈ groles.keys) (damage healer tank : Nat) :
    countRoles dungeon retry rest groles damage healer tank =
      countRoles dungeon retry' rest groles damage healer tank := by
  induction rest generalizing damage healer tank with
  | nil => rfl
  | cons guid rest ih =>
    obtain ⟨selected, hfind⟩ := find?_of_mem_keys (hrest guid List.mem_cons_self)
    have hblock : ∀ bit ∈ combatRoles, ∀ required count, _ := fun bit hbit required count =>
      countRole_agree hroles hretry hagree hfind hbit required count
    rw [countRoles_cons dungeon retry hfind, countRoles_cons dungeon retry' hfind]
    split
    · rfl
    obtain ⟨hsame, hkeeps⟩ := hblock playerRoleDamage (by decide)
      (dungeon.required playerRoleDamage) damage
    rw [hsame]
    rcases hfirst : countRole retry' (combatRole selected) playerRoleDamage
      (dungeon.required playerRoleDamage) guid groles damage with result | ⟨map, damage'⟩
    · rfl
    obtain rfl := hkeeps _ hfirst
    rw [Except.bind, Except.bind]
    dsimp only
    obtain ⟨hsame, hkeeps⟩ := hblock playerRoleHealer (by decide)
      (dungeon.required playerRoleHealer) healer
    rw [hsame]
    rcases hsecond : countRole retry' (combatRole selected) playerRoleHealer
      (dungeon.required playerRoleHealer) guid map healer with result | ⟨map', healer'⟩
    · rfl
    obtain rfl := hkeeps _ hsecond
    rw [Except.bind, Except.bind]
    dsimp only
    obtain ⟨hsame, hkeeps⟩ := hblock playerRoleTank (by decide)
      (dungeon.required playerRoleTank) tank
    rw [hsame]
    rcases hthird : countRole retry' (combatRole selected) playerRoleTank
      (dungeon.required playerRoleTank) guid map' tank with result | ⟨map'', tank'⟩
    · rfl
    obtain rfl := hkeeps _ hthird
    exact ih (fun other hother => hrest other (List.mem_cons_of_mem _ hother)) _ _ _

/-- The search ends: more fuel than there are selected roles changes nothing. -/
theorem checkRoles_fuel {fuel : Nat} (more : Nat) (hroles : RolesOnly groles)
    (hsome : groles.keys ≠ []) (hsize : groles.keys.length ≤ 255)
    (hfuel : selectedRoles groles < fuel) :
    checkRoles dungeon (fuel + more) groles = checkRoles dungeon fuel groles := by
  induction fuel generalizing groles with
  | zero => exact absurd hfuel (Nat.not_lt_zero _)
  | succ fuel ih =>
    have hretry : SolvesSmaller dungeon groles (checkRoles dungeon fuel) := by
      intro reduced hreduced hkeys hless
      exact checkRoles_spec hreduced (hkeys ▸ hsome) (hkeys ▸ hsize) (by omega)
    have hagree : AgreeSmaller groles (checkRoles dungeon (fuel + more))
        (checkRoles dungeon fuel) := by
      intro reduced hreduced hkeys hless
      exact ih hreduced (hkeys ▸ hsome) (hkeys ▸ hsize) (by omega)
    rw [Nat.succ_add, checkRoles, checkRoles,
      countRoles_agree hroles hretry hagree fun _ h => h]

end Fuel

/-! ## Other role bits -/

theorem lt_of_sub (hbit : bit ∈ combatRoles) (hset : combatRole role &&& bit ≠ 0)
    (hlt : role - bit < 16) : role < 16 := by
  exact forall_lt_bit (P := fun bit role => combatRole role &&& bit ≠ 0 → role - bit < 16 →
    role < 16) 256 (by decide +kernel) role.toNat_lt hbit hset hlt

theorem lt_of_single (hsingle : combatRole role ∈ combatRoles) : role < 16 :=
  forall_lt (P := fun role => combatRole role ∈ combatRoles → role < 16) 256
    (by decide +kernel) role.toNat_lt hsingle

/-- A refused map is as it was, and an accepted one has no other roles than the four. -/
def Accepts (groles : LfgRolesMap) (result : Bool × LfgRolesMap) : Prop :=
  (result.1 = false → result.2 = groles) ∧ (result.1 = true → RolesOnly groles)

section Accepts

variable {dungeon : LFGDungeonData} {retry : LfgRolesMap → Bool × LfgRolesMap}
  {groles : LfgRolesMap}

theorem countRole_accepts (hsize : groles.keys.length ≤ 255)
    (hretry : ∀ reduced : LfgRolesMap, reduced.keys.length ≤ 255 →
      Accepts reduced (retry reduced)) {guid : Guid} (hkeys : groles.keys = done ++ guid :: rest)
    (hfind : groles.find? guid = some selected) (hbit : bit ∈ combatRoles) (required : Nat) :
    (∃ result, countRole retry (combatRole selected) bit required guid groles
        (singles groles done bit) = .error result ∧ Accepts groles result) ∨
      countRole retry (combatRole selected) bit required guid groles
        (singles groles done bit) = .ok (groles, singles groles (done ++ [guid]) bit) := by
  rw [countRole, singles_snoc hfind]
  by_cases hzero : combatRole selected &&& bit = 0
  · have hne : combatRole selected ≠ bit := by
      intro heq
      rw [heq, UInt8.and_self] at hzero
      exact ne_of_mem_of_not_mem hbit (by decide) hzero
    rw [if_pos hzero, if_neg hne]
    exact Or.inr rfl
  rw [if_neg hzero]
  by_cases hne : combatRole selected ≠ bit
  · rw [if_pos hne, if_neg hne, hfind, Option.getD_some]
    have hlength : (groles.insert guid (selected - bit)).keys.length ≤ 255 := by
      rw [OrderedMap.keys_insert hfind]
      exact hsize
    have haccepts := hretry _ hlength
    generalize retry (groles.insert guid (selected - bit)) = result at haccepts ⊢
    obtain ⟨_ | _, map⟩ := result
    · obtain rfl := haccepts.1 rfl
      right
      dsimp only
      rw [OrderedMap.find?_insert_self, Option.getD_some, UInt8.sub_add_cancel,
        OrderedMap.insert_insert, OrderedMap.insert_of_find? hfind]
      rfl
    · left
      refine ⟨_, rfl, nofun, ?_⟩
      intro _ other role hother
      have hreduced := haccepts.2 rfl other
      rw [OrderedMap.find?_insert] at hreduced
      by_cases hsame : other = guid
      · subst hsame
        obtain rfl := Option.some.inj (hfind.symm.trans hother)
        exact lt_of_sub hbit hzero (hreduced _ (if_pos rfl))
      · exact hreduced role ((if_neg hsame).trans hother)
  · have heq : combatRole selected = bit := not_not.mp hne
    rw [if_neg hne, if_pos heq]
    split
    · exact Or.inl ⟨_, rfl, fun _ => rfl, nofun⟩
    · have hlength : singles groles done bit ≤ done.length := List.countP_le_length
      have hcount := congrArg List.length hkeys
      rw [List.length_append, List.length_cons] at hcount
      rw [Nat.mod_eq_of_lt (by omega)]
      exact Or.inr rfl

theorem countRoles_accepts (hsize : groles.keys.length ≤ 255)
    (hretry : ∀ reduced : LfgRolesMap, reduced.keys.length ≤ 255 →
      Accepts reduced (retry reduced)) (hkeys : groles.keys = done ++ rest) :
    Accepts groles (scanResult (countRoles dungeon retry rest groles
      (singles groles done playerRoleDamage) (singles groles done playerRoleHealer)
      (singles groles done playerRoleTank))) := by
  induction rest generalizing done with
  | nil =>
    rw [List.append_nil] at hkeys
    rw [countRoles, scanResult, singles_sum]
    refine ⟨fun _ => rfl, ?_⟩
    intro hcount guid role hfind
    have hlength : groles.entries.length = done.length := by
      rw [← hkeys, OrderedMap.keys, List.length_map]
    have hall : (done.countP fun guid =>
        combatRole ((groles.find? guid).getD 0) ∈ combatRoles) = done.length := by
      have hmod := of_decide_eq_true hcount
      rw [hkeys] at hsize
      rw [hlength, Nat.mod_eq_of_lt (by omega)] at hmod
      exact hmod
    have hkey : guid ∈ done :=
      hkeys ▸ OrderedMap.mem_keys.mpr (OrderedMap.contains_of_find? hfind)
    have hsingle := of_decide_eq_true (List.countP_eq_length.mp hall guid hkey)
    rw [hfind] at hsingle
    exact lt_of_single hsingle
  | cons guid rest ih =>
    have hkey : guid ∈ groles.keys := by
      rw [hkeys]
      exact List.mem_append_right _ List.mem_cons_self
    obtain ⟨selected, hfind⟩ := find?_of_mem_keys hkey
    have hblock : ∀ bit ∈ combatRoles, ∀ required, _ := fun bit hbit required =>
      countRole_accepts hsize hretry hkeys hfind hbit required
    rw [countRoles_cons dungeon retry hfind]
    split
    · exact ⟨fun _ => rfl, fun h => Bool.noConfusion h⟩
    rcases hblock playerRoleDamage (by decide) (dungeon.required playerRoleDamage) with
      ⟨result, heq, haccepts⟩ | heq
    · rw [heq]
      exact haccepts
    rw [heq, Except.bind]
    rcases hblock playerRoleHealer (by decide) (dungeon.required playerRoleHealer) with
      ⟨result, heq, haccepts⟩ | heq
    · rw [heq]
      exact haccepts
    rw [heq, Except.bind]
    rcases hblock playerRoleTank (by decide) (dungeon.required playerRoleTank) with
      ⟨result, heq, haccepts⟩ | heq
    · rw [heq]
      exact haccepts
    rw [heq, Except.bind]
    apply ih
    rw [hkeys, List.append_assoc]
    rfl

theorem checkRoles_accepts (fuel : Nat) (hsize : groles.keys.length ≤ 255) :
    Accepts groles (checkRoles dungeon fuel groles) := by
  induction fuel generalizing groles with
  | zero => exact ⟨fun _ => rfl, nofun⟩
  | succ fuel ih =>
    rw [checkRoles]
    split
    · exact ⟨fun _ => rfl, nofun⟩
    · exact countRoles_accepts hsize (fun _ hreduced => ih hreduced) (List.nil_append _).symm

end Accepts

theorem checkGroupRoles_spec (dungeon : LFGDungeonData) (hroles : RolesOnly groles)
    (hsome : groles.keys ≠ []) (hsize : groles.keys.length ≤ 255) :
    Solves dungeon groles (checkGroupRoles groles dungeon) :=
  checkRoles_spec hroles hsome hsize (Nat.lt_succ_of_le (selectedRoles_le groles))

/-- For one to 255 players the search ends with an assignment in the map if there is one,
and otherwise with the map as it was. -/
theorem checkGroupRoles_solves {groles : LfgRolesMap} (dungeon : LFGDungeonData)
    (hroles : RolesOnly groles) (hsome : groles.keys ≠ [])
    (hsize : groles.keys.length ≤ 255) :
    ((checkGroupRoles groles dungeon).1 = true ↔ ∃ role, IsAssignment dungeon groles role) ∧
      ((checkGroupRoles groles dungeon).1 = true →
        ∃ role, IsAssignment dungeon groles role ∧
          (checkGroupRoles groles dungeon).2 = assign groles role) ∧
      ((checkGroupRoles groles dungeon).1 = false →
        (checkGroupRoles groles dungeon).2 = groles) ∧
      ∀ more, checkRoles dungeon (3 * groles.entries.length + 1 + more) groles =
        checkGroupRoles groles dungeon := by
  have hfuel : selectedRoles groles < 3 * groles.entries.length + 1 :=
    Nat.lt_succ_of_le (selectedRoles_le groles)
  have hends : ∀ more, checkRoles dungeon (3 * groles.entries.length + 1 + more) groles =
      checkGroupRoles groles dungeon :=
    fun more => checkRoles_fuel more hroles hsome hsize hfuel
  have hsolves := checkGroupRoles_spec dungeon hroles hsome hsize
  generalize hresult : checkGroupRoles groles dungeon = result at hsolves ⊢
  obtain ⟨_ | _, map⟩ := result
  · obtain ⟨rfl, hnone⟩ := hsolves
    exact ⟨⟨nofun, fun ⟨role, hrole⟩ => absurd hrole (hnone role)⟩, nofun, fun _ => rfl,
      fun more => (hends more).trans hresult⟩
  · obtain ⟨role, hrole, rfl⟩ := hsolves
    exact ⟨⟨fun _ => ⟨role, hrole⟩, fun _ => rfl⟩, fun _ => ⟨role, hrole, rfl⟩, nofun,
      fun more => (hends more).trans hresult⟩

/-- A map that is accepted holds an assignment of roles that the players selected, whatever
else they sent. -/
theorem assignment_of_accepted (hsize : groles.keys.length ≤ 255)
    (h : (checkGroupRoles groles dungeon).1 = true) :
    ∃ role, IsAssignment dungeon groles role ∧
      (checkGroupRoles groles dungeon).2 = assign groles role := by
  have hroles : RolesOnly groles := (checkRoles_accepts _ hsize).2 h
  have hsome : groles.keys ≠ [] := by
    intro hnone
    have hentries : groles.entries = [] := List.map_eq_nil_iff.mp hnone
    rw [checkGroupRoles, checkRoles, hentries] at h
    cases h
  have hsolves := checkGroupRoles_spec dungeon hroles hsome hsize
  generalize checkGroupRoles groles dungeon = result at h hsolves ⊢
  obtain ⟨_ | _, map⟩ := result
  · cases h
  · exact hsolves

theorem rolesOnly_of_entries (h : ∀ entry ∈ groles.entries, entry.2 < 16) : RolesOnly groles :=
  fun _ _ hfind => h _ (OrderedMap.find?_eq_some_iff.mp hfind)

/-- A leader who tanks or deals damage, a tank, and a healer who deals damage. -/
def threeRoles : LfgRolesMap := ((OrderedMap.empty.insert 1 11).insert 2 2).insert 3 12

/-- The leader deals damage and the third player heals. -/
theorem threeRoles_solved :
    ∃ role, IsAssignment ⟨.dungeon, 0, 1, 1, 3⟩ threeRoles role ∧
      (checkGroupRoles threeRoles ⟨.dungeon, 0, 1, 1, 3⟩).2 = assign threeRoles role := by
  have hroles : RolesOnly threeRoles := rolesOnly_of_entries (by decide)
  have hsolves := checkGroupRoles_solves ⟨.dungeon, 0, 1, 1, 3⟩
    hroles (by decide) (by decide)
  exact hsolves.2.1 (by decide +kernel)

/-- The first half of a number of players are tanks and the others healers. -/
def halfRole (number guid : Nat) : UInt8 :=
  if 2 * guid < number then playerRoleTank else playerRoleHealer

theorem sorted_halfRole (number : Nat) :
    ((List.range number).map fun guid => (guid, halfRole number guid)).Pairwise
      fun entry other => entry.1 < other.1 :=
  List.pairwise_map.mpr List.pairwise_lt_range

def tanksAndHealers (number : Nat) : LfgRolesMap :=
  ⟨(List.range number).map fun guid => (guid, halfRole number guid), sorted_halfRole number⟩

theorem halfRole_cases (number guid : Nat) :
    halfRole number guid = playerRoleTank ∨ halfRole number guid = playerRoleHealer := by
  unfold halfRole
  split
  · exact Or.inl rfl
  · exact Or.inr rfl

theorem halfRole_mem (number guid : Nat) : halfRole number guid ∈ combatRoles := by
  rcases halfRole_cases number guid with h | h
  · rw [h]
    decide
  · rw [h]
    decide

theorem entry_tanksAndHealers {number : Nat} {entry : Guid × UInt8}
    (h : entry ∈ (tanksAndHealers number).entries) : entry.2 = halfRole number entry.1 := by
  obtain ⟨guid, -, rfl⟩ := List.mem_map.mp h
  rfl

/-- An empty map is refused although nobody lacks a role, and 256 players are refused although
everybody has the one role that the dungeon still takes. -/
theorem refused_with_assignment :
    ((checkGroupRoles .empty ⟨.dungeon, 0, 1, 1, 3⟩).1 = false ∧
      ∃ role, IsAssignment ⟨.dungeon, 0, 1, 1, 3⟩ .empty role) ∧
    (RolesOnly (tanksAndHealers 256) ∧
      (checkGroupRoles (tanksAndHealers 256) ⟨.raid, 0, 128, 128, 0⟩).1 = false ∧
      ∃ role, IsAssignment ⟨.raid, 0, 128, 128, 0⟩ (tanksAndHealers 256) role) := by
  refine ⟨⟨rfl, fun _ => playerRoleTank, ?_⟩, ?_, ?_, halfRole 256, ?_⟩
  · exact ⟨nofun, nofun, Nat.zero_le _, Nat.zero_le _, Nat.zero_le _⟩
  · refine rolesOnly_of_entries fun entry hentry => ?_
    rw [entry_tanksAndHealers hentry]
    rcases halfRole_cases 256 entry.1 with h | h
    · rw [h]
      decide
    · rw [h]
      decide
  · decide +kernel
  · have hcounts : ((List.range 256).countP fun guid => halfRole 256 guid = playerRoleTank) = 128 ∧
        ((List.range 256).countP fun guid => halfRole 256 guid = playerRoleHealer) = 128 := by
      decide +kernel
    have hkeys : (tanksAndHealers 256).keys = List.range 256 := by
      rw [OrderedMap.keys, tanksAndHealers, List.map_map]
      exact List.map_id _
    refine ⟨fun guid _ => halfRole_mem 256 guid, ?_, ?_, ?_, ?_⟩
    · intro guid selected hfind
      have hentry := entry_tanksAndHealers (OrderedMap.find?_eq_some_iff.mp hfind)
      rw [show selected = halfRole 256 guid from hentry, UInt8.and_self]
      exact ne_of_mem_of_not_mem (halfRole_mem 256 guid) (by decide)
    · rw [hkeys, hcounts.1]
    · rw [hkeys, hcounts.2]
    · refine (List.countP_eq_zero.mpr fun guid _ => ?_).le
      rcases halfRole_cases 256 guid with h | h
      · rw [h]
        decide
      · rw [h]
        decide

end Cataclysm.Lfg
