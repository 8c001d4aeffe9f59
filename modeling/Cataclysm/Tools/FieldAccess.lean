import Cataclysm.Tools.DumpText

/-!
# The values of a dumped row

The writer escapes the values of a row, and the reader finds a value by its quotes. The reader
looks one character back to pass over an escaped quote, and jumps four characters each time, as
from the end of one value to the start of the next. In the first value it does not move on at all.

A value is found exactly if the scan enters it at its start and leaves it at the quote behind it.
How the scan leaves the values before is the run of a small automaton over their texts.

## Implementation notes

A value is a string of bytes, in any encoding. In the text of a line the character of a number
below 256 stands for the byte, so that positions and jumps count bytes.

The state of the automaton is the number of characters of a value that a jump has already passed
when the scan comes to it: none, or three if the last jump led over the end of the value before.
A value that ends in a backslash hides the quote behind it, and the scan then takes the next value
for it.
-/

namespace Cataclysm.Tools

/-! ### Escaped values -/

variable {before text : Line}

/-- A character, as `mysql_real_escape_string` writes it. -/
def escapeChar (c : Char) : Line :=
  if c = '\'' ∨ c = '"' ∨ c = '\\' then ['\\', c]
  else if c = '\x00' then ['\\', '0']
  else if c = '\n' then ['\\', 'n']
  else if c = '\r' then ['\\', 'r']
  else if c = '\x1a' then ['\\', 'Z']
  else [c]

def escape (value : Line) : Line := value.flatMap escapeChar

/-- `EscapeString` of the database. -/
def escapeString (str : String) : String := String.ofList (escape str.toList)

/-- The bytes of a `std::string`. -/
abbrev Bytes := List UInt8

/-- The characters that stand for bytes. -/
def chars (bytes : Bytes) : Line := bytes.map fun b => Char.ofNat b.toNat

/-- The escaped texts of the values of a row. -/
def texts (values : List Bytes) : List Line := values.map fun value => escape (chars value)

/-- The line that `CreateDumpString` writes for a row. -/
def dumpLine (table : String) (values : List Bytes) : Line :=
  (createDumpString escapeString
    ⟨table, values.map fun value => String.ofList (chars value)⟩).toList

/-- Every quote of a text has a backslash in front of it. -/
def Escaped (text : Line) : Prop :=
  ∀ before after, text = before ++ '\'' :: after → before.getLast? = some '\\'

theorem escapeChar_cases (c : Char) :
    (∃ c', escapeChar c = ['\\', c']) ∨ escapeChar c = [c] ∧ c ≠ '\'' := by
  rw [escapeChar]
  by_cases hspecial : c = '\'' ∨ c = '"' ∨ c = '\\'
  · exact Or.inl ⟨c, if_pos hspecial⟩
  · rw [if_neg hspecial]
    have hquote : c ≠ '\'' := fun heq => hspecial (Or.inl heq)
    split_ifs
    · exact Or.inl ⟨'0', rfl⟩
    · exact Or.inl ⟨'n', rfl⟩
    · exact Or.inl ⟨'r', rfl⟩
    · exact Or.inl ⟨'Z', rfl⟩
    · exact Or.inr ⟨rfl, hquote⟩

theorem getLast?_cons_of_some {c d : Char} (h : before.getLast? = some c) :
    (d :: before).getLast? = some c := by
  rw [List.getLast?_cons, h, Option.getD_some]

theorem escaped_escape (value : Line) : Escaped (escape value) := by
  induction value with
  | nil =>
    intro before after heq
    have hmem : '\'' ∈ escape [] := heq ▸ List.mem_append_right _ List.mem_cons_self
    cases hmem
  | cons c value ih =>
    intro before after heq
    rw [escape, List.flatMap_cons] at heq
    rcases escapeChar_cases c with ⟨c', hchar⟩ | ⟨hchar, hquote⟩
    · rw [hchar, List.cons_append, List.singleton_append] at heq
      rcases before with _ | ⟨d, _ | ⟨d', before⟩⟩
      · exact absurd (List.cons.inj heq).1 (by decide)
      · rw [List.getLast?_singleton, ← (List.cons.inj heq).1]
      · have htail := (List.cons.inj (List.cons.inj heq).2).2
        exact getLast?_cons_of_some (getLast?_cons_of_some (ih before after htail))
    · rw [hchar, List.singleton_append] at heq
      rcases before with _ | ⟨d, before⟩
      · exact absurd (List.cons.inj heq).1 hquote
      · exact getLast?_cons_of_some (ih before after (List.cons.inj heq).2)

theorem escaped_of_mem_texts {values : List Bytes} (h : text ∈ texts values) : Escaped text := by
  obtain ⟨value, -, rfl⟩ := List.mem_map.mp h
  exact escaped_escape (chars value)

/-! ### The line -/

/-- What stands behind a value of the line. -/
def closing : List Line → Line
  | [] => "');".toList
  | text :: rest => "', '".toList ++ text ++ closing rest

theorem closing_cons (text : Line) (rest : List Line) :
    closing (text :: rest) = "', '".toList ++ text ++ closing rest := rfl

theorem closing_append (before : List Line) (text : Line) (after : List Line) :
    closing (before ++ text :: after) =
      "', '".toList ++ ahead before ++ text ++ closing after := by
  induction before with
  | nil => rw [List.nil_append, closing_cons, ahead, List.flatMap_nil, List.append_nil]
  | cons text' before ih =>
    rw [List.cons_append, closing_cons, ih, ahead_cons]
    simp only [List.append_assoc]

theorem toList_escapeString (bytes : Bytes) :
    (escapeString (String.ofList (chars bytes))).toList = escape (chars bytes) := by
  rw [escapeString, String.toList_ofList, String.toList_ofList]

theorem texts_cons (value : Bytes) (rest : List Bytes) :
    texts (value :: rest) = escape (chars value) :: texts rest := List.map_cons

/-- A value, in quotes. -/
def quoted (value : Bytes) : String := "'" ++ escapeString (String.ofList (chars value)) ++ "'"

theorem toList_quoted (value : Bytes) :
    (quoted value).toList = '\'' :: escape (chars value) ++ ['\''] := by
  rw [quoted, String.toList_append, String.toList_append, toList_escapeString]
  rfl

theorem toList_intercalate_cons (value : Bytes) (rest : List Bytes) :
    (String.intercalate ", " ((value :: rest).map quoted)).toList ++ ");".toList =
      '\'' :: escape (chars value) ++ closing (texts rest) := by
  induction rest generalizing value with
  | nil =>
    rw [List.map_cons, List.map_nil, String.intercalate_singleton, toList_quoted,
      List.append_assoc]
    rfl
  | cons value' rest ih =>
    have htail := ih value'
    rw [List.map_cons] at htail ⊢
    rw [List.map_cons, String.intercalate_cons_cons, String.toList_append,
      String.toList_append, List.append_assoc, htail, toList_quoted, texts_cons,
      closing_cons]
    simp

theorem dumpLine_cons (table : String) (value : Bytes) (rest : List Bytes) :
    dumpLine table (value :: rest) =
      opening table ++ escape (chars value) ++ closing (texts rest) := by
  have hrest := toList_intercalate_cons value rest
  have hline : dumpLine table (value :: rest) =
      "INSERT INTO `".toList ++ table.toList ++ "` VALUES (".toList ++
        ((String.intercalate ", " ((value :: rest).map quoted)).toList ++ ");".toList) := by
    rw [dumpLine, createDumpString, List.map_map]
    simp only [String.toList_append, List.append_assoc]
    rfl
  rw [hline, hrest, opening, head_eq]
  simp

/-- The line of a row, around one of its values. -/
theorem dumpLine_append (table : String) (before : List Bytes) (value : Bytes)
    (after : List Bytes) :
    dumpLine table (before ++ value :: after) =
      opening table ++ ahead (texts before) ++ escape (chars value) ++ closing (texts after) := by
  cases before with
  | nil =>
    rw [List.nil_append, dumpLine_cons, texts, texts, List.map_nil, ahead, List.flatMap_nil,
      List.append_nil]
  | cons value' before =>
    rw [List.cons_append, dumpLine_cons, texts, List.map_append, List.map_cons,
      closing_append, texts, List.map_cons, ahead_cons]
    simp only [List.append_assoc, texts]

/-! ### Searches -/

/-- The start of a pattern that ends in a character is found in front of the first such
character. -/
theorem findText_first {before pattern : Line} {c : Char} (hbefore : c ∉ before)
    (hpattern : c ∉ pattern) (rest : Line) :
    findText (pattern ++ [c]) (before ++ (pattern ++ [c]) ++ rest) = some before.length := by
  induction before with
  | nil =>
    have hne : pattern ++ [c] ≠ [] := List.append_ne_nil_of_right_ne_nil _ (List.cons_ne_nil c [])
    rw [List.nil_append, findText_of_prefix hne, List.length_nil]
  | cons d before ih =>
    have hstart : ¬ pattern ++ [c] <+: d :: (before ++ (pattern ++ [c]) ++ rest) := by
      rintro ⟨suffix, hsuffix⟩
      have hlt : pattern.length < (d :: (before ++ pattern)).length := by
        rw [List.length_cons, List.length_append]
        omega
      have htext : d :: (before ++ (pattern ++ [c]) ++ rest) =
          d :: (before ++ pattern) ++ ([c] ++ rest) := by
        simp only [List.append_assoc, List.cons_append]
      have hat := congrArg (fun text => text[pattern.length]?) hsuffix
      rw [htext, List.getElem?_append_left hlt, List.append_assoc,
        List.getElem?_append_right (Nat.le_refl _), Nat.sub_self] at hat
      have hmem : c ∈ d :: (before ++ pattern) := List.mem_of_getElem? hat.symm
      rw [← List.cons_append] at hmem
      exact (List.mem_append.mp hmem).elim hbefore hpattern
    rw [List.cons_append, List.cons_append, findText_cons hstart,
      ih fun hin => hbefore (List.mem_cons_of_mem _ hin)]
    rfl

theorem findText_values {table : String} (htable : '\'' ∉ table.toList) (rest : Line) :
    findText "VALUES ('".toList (opening table ++ rest) = some (head table).length := by
  have hhead : '\'' ∉ head table := by
    have hfirst : '\'' ∉ "INSERT INTO `".toList := by decide
    have hlast : '\'' ∉ "` ".toList := by decide
    rw [head_eq, List.mem_append, List.mem_append, not_or, not_or]
    exact ⟨⟨hfirst, htable⟩, hlast⟩
  exact @findText_first (head table) "VALUES (".toList '\'' hhead (by decide) rest

theorem findChar_bounds {str : Line} {c : Char} {pos e : Nat} (h : findChar str c pos = some e) :
    pos ≤ e ∧ e < str.length := by
  obtain ⟨i, hi, rfl⟩ := Option.map_eq_some_iff.mp h
  have hlt := (List.findIdx?_eq_some_iff_getElem.mp hi).1
  rw [List.length_drop] at hlt
  omega

theorem findChar_eq_none {before after : Line} {c : Char} {pos : Nat}
    (hpos : before.length ≤ pos) (hafter : c ∉ after) :
    findChar (before ++ after) c pos = none := by
  have hdrop : (before ++ after).drop pos = after.drop (pos - before.length) := by
    rw [List.drop_append, List.drop_of_length_le hpos, List.nil_append]
  rw [findChar, hdrop, Option.map_eq_none_iff, List.findIdx?_eq_none_iff]
  exact fun d hin => beq_eq_false_iff_ne.mpr fun heq => hafter (heq ▸ List.mem_of_mem_drop hin)

/-- The character in front of a quote. -/
theorem getElem?_before (hne : before ≠ []) (after : Line) :
    (before ++ after)[before.length - 1]? = before.getLast? := by
  have hlt : before.length - 1 < before.length := by
    have hpos := List.length_pos_of_ne_nil hne
    omega
  rw [List.getElem?_append_left hlt, List.getLast?_eq_getElem?]

/-! ### The loop -/

/-- The next value, as the loop of the reader finds it. -/
def nextFrom (str : Line) (e : Nat) : Option (Nat × Nat) := nextValue str str.length e

/-- The loop moves forward, so it needs no more turns than the text has characters. -/
theorem nextValue_fuel {str : Line} {fuel fuel' e : Nat} (h : str.length ≤ e + fuel)
    (h' : str.length ≤ e + fuel') : nextValue str fuel e = nextValue str fuel' e := by
  have hend : ∀ {fuel e}, str.length ≤ e → nextValue str fuel e = none := by
    intro fuel e hle
    cases fuel with
    | zero => rfl
    | succ fuel =>
      have hnone := @findChar_eq_none str [] '\'' (e + 4) (by omega) List.not_mem_nil
      rw [List.append_nil] at hnone
      rw [nextValue, hnone]
  induction fuel generalizing e fuel' with
  | zero =>
    have hle : str.length ≤ e := h
    rw [hend hle, hend hle]
  | succ fuel ih =>
    cases fuel' with
    | zero =>
      have hle : str.length ≤ e := h'
      rw [hend hle, hend hle]
    | succ fuel' =>
      rw [nextValue, nextValue]
      cases hfind : findChar str '\'' (e + 4) with
      | none => rfl
      | some e' =>
        have hbounds := findChar_bounds hfind
        have hnext : nextValue str fuel e' = nextValue str fuel' e' :=
          ih (by omega) (by omega)
        dsimp only
        rw [hnext]

section Turns
variable {str : Line} {e e' : Nat}

theorem nextFrom_eq (str : Line) (e : Nat) :
    nextFrom str e = nextValue str (str.length + 1) e :=
  nextValue_fuel (by omega) (by omega)

theorem nextFrom_none (h : findChar str '\'' (e + 4) = none) : nextFrom str e = none := by
  rw [nextFrom_eq, nextValue, h]

theorem nextFrom_some (h : findChar str '\'' (e + 4) = some e') :
    nextFrom str e =
      if str[e' - 1]? = some '\\' then nextFrom str e' else some (e + 4, e') := by
  rw [nextFrom_eq, nextValue, h]
  rfl

/-- The next value starts no earlier than a separator behind the last one. -/
theorem le_of_nextFrom {s : Nat} (h : nextFrom str e = some (s, e')) : e + 4 ≤ s := by
  induction hlength : str.length - e using Nat.strong_induction_on generalizing e with
  | h n ih =>
    cases hfind : findChar str '\'' (e + 4) with
    | none =>
      rw [nextFrom_none hfind] at h
      cases h
    | some found =>
      have hbounds := findChar_bounds hfind
      rw [nextFrom_some hfind] at h
      split_ifs at h with hescaped
      · have hle := ih (str.length - found) (by omega) h rfl
        omega
      · cases h
        exact Nat.le_refl _

end Turns

/-! ### The automaton -/

variable {skip : Nat}

/-- What a jump has left over where a text ends, if it has some characters left over where the
text starts. A jump from a quote leads over the next three characters. -/
def leftOver : Nat → Line → Nat
  | skip, [] => skip
  | skip + 1, _ :: rest => leftOver skip rest
  | 0, c :: rest => if c = '\'' then leftOver 3 rest else leftOver 0 rest

/-- How the scan leaves a value: it enters the next one at its start or behind three of its
characters. If it takes the next value for this one, there is no state. -/
def leave (skip : Nat) (text : Line) : Option Nat :=
  if leftOver skip text ≠ 0 then some 3
  else if text.getLast? = some '\\' then none else some 0

/-- A text that ends at the first quote behind its start. -/
def Delimited (text : Line) : Prop := '\'' ∉ text ∧ text.getLast? ≠ some '\\'

instance (text : Line) : Decidable (Delimited text) := inferInstanceAs (Decidable (_ ∧ _))

/-- The scan comes to the start of a value and finds its end: it leaves the first value, and the
automaton runs through the values between. -/
def Reached (values : List Line) (n : Nat) : Prop :=
  (∀ first ∈ values.head?, Delimited first) ∧
    (values.take n).tail.foldlM leave 0 = some 0 ∧ ∀ text ∈ values[n]?, Delimited text

instance (values : List Line) (n : Nat) : Decidable (Reached values n) :=
  inferInstanceAs (Decidable (_ ∧ _ ∧ _))

theorem leftOver_of_notMem (h : '\'' ∉ text) (rest : Line) :
    leftOver 0 (text ++ rest) = leftOver 0 rest := by
  induction text with
  | nil => rfl
  | cons c text ih =>
    have hc : c ≠ '\'' := fun heq => h (heq ▸ List.mem_cons_self)
    rw [List.cons_append, leftOver, if_neg hc, ih fun hin => h (List.mem_cons_of_mem _ hin)]

theorem leftOver_quote (rest : Line) : leftOver 0 ('\'' :: rest) = leftOver 3 rest := by
  rw [leftOver, if_pos rfl]

theorem leftOver_drop (h : skip ≤ text.length) :
    leftOver skip text = leftOver 0 (text.drop skip) := by
  induction text generalizing skip with
  | nil => rw [Nat.le_zero.mp h, List.drop_zero]
  | cons c text ih =>
    cases skip with
    | zero => rw [List.drop_zero]
    | succ skip => rw [leftOver, List.drop_succ_cons, ih (Nat.le_of_succ_le_succ h)]

theorem leftOver_of_length_lt (h : text.length < skip) :
    leftOver skip text = skip - text.length := by
  induction text generalizing skip with
  | nil => rfl
  | cons c text ih =>
    cases skip with
    | zero => exact absurd h (Nat.not_lt_zero _)
    | succ skip =>
      rw [leftOver, List.length_cons, Nat.add_sub_add_right, ih (Nat.lt_of_succ_lt_succ h)]

theorem leftOver_le (h : skip ≤ 3) (text : Line) : leftOver skip text ≤ 3 := by
  induction text generalizing skip with
  | nil => exact h
  | cons c text ih =>
    cases skip with
    | zero =>
      rw [leftOver]
      split_ifs
      · exact ih (Nat.le_refl 3)
      · exact ih (Nat.zero_le 3)
    | succ skip => exact ih (Nat.le_of_succ_le h)

/-! ### One value -/

section Values
variable {front after str : Line} {e : Nat}

/-- The scan comes to a quote: a backslash in front of it makes it a character of the value. -/
theorem nextFrom_quote (hne : front ≠ []) (hbefore : '\'' ∉ before)
    (hstr : str = front ++ before ++ '\'' :: after) (he : e + 4 = front.length) :
    nextFrom str e =
      if (front ++ before).getLast? = some '\\' then nextFrom str (front ++ before).length
      else some (e + 4, (front ++ before).length) := by
  have hfind : findChar str '\'' (e + 4) = some (front ++ before).length := by
    rw [hstr, he, findChar_append hbefore, List.length_append]
  have hat : str[(front ++ before).length - 1]? = (front ++ before).getLast? := by
    rw [hstr, getElem?_before (List.append_ne_nil_of_left_ne_nil hne _)]
  rw [nextFrom_some hfind, hat]

/-- From inside a value the scan comes to the quote behind it, or a jump leads over that quote. -/
theorem nextFrom_value (hne : front ≠ [])
    (hescaped : ∀ before rest, text = before ++ '\'' :: rest →
      (front ++ before).getLast? = some '\\') (hstr : str = front ++ text ++ '\'' :: after)
    (he : e + 4 = front.length) :
    (leftOver 0 text = 0 ∧ ∃ s, e + 4 ≤ s ∧ (s = e + 4 ↔ '\'' ∉ text) ∧
        nextFrom str e =
          if (front ++ text).getLast? = some '\\' then nextFrom str (front ++ text).length
          else some (s, (front ++ text).length)) ∨
      leftOver 0 text ≠ 0 ∧ ∃ e', e < e' ∧
        e' + 4 = (front ++ text).length + leftOver 0 text ∧ nextFrom str e = nextFrom str e' := by
  induction hlength : text.length using Nat.strong_induction_on generalizing front text e with
  | h n ih =>
    by_cases hquote : '\'' ∈ text
    · obtain ⟨first, rest, rfl, hfirst⟩ := List.eq_append_cons_of_mem hquote
      -- the first quote is escaped, and the jump from it leads over three more characters
      have hnext : nextFrom str e = nextFrom str (front ++ first).length := by
        have hstr' : str = front ++ first ++ '\'' :: (rest ++ '\'' :: after) := by
          rw [hstr]
          simp only [List.append_assoc, List.cons_append]
        rw [nextFrom_quote hne hfirst hstr' he, if_pos (hescaped first rest rfl)]
      have hlt : e < (front ++ first).length := by
        rw [List.length_append]
        omega
      rw [leftOver_of_notMem hfirst, leftOver_quote]
      by_cases hshort : rest.length < 3
      · have hleft := leftOver_of_length_lt hshort
        refine Or.inr ⟨by omega, (front ++ first).length, hlt, ?_, hnext⟩
        rw [hleft]
        simp only [List.length_append, List.length_cons]
        omega
      · have htake : rest = rest.take 3 ++ rest.drop 3 := (List.take_append_drop 3 rest).symm
        have htext : front ++ (first ++ '\'' :: rest) =
            front ++ first ++ '\'' :: rest.take 3 ++ rest.drop 3 := by
          rw [List.append_assoc _ ('\'' :: _), List.cons_append, ← htake, List.append_assoc]
        have hshorter : (rest.drop 3).length < n := by
          rw [← hlength, List.length_drop, List.length_append, List.length_cons]
          omega
        have hfront : front ++ first ++ '\'' :: rest.take 3 ≠ [] :=
          List.append_ne_nil_of_right_ne_nil _ (List.cons_ne_nil _ _)
        have hescaped' : ∀ before rest', rest.drop 3 = before ++ '\'' :: rest' →
            (front ++ first ++ '\'' :: rest.take 3 ++ before).getLast? = some '\\' := by
          intro before rest' heq
          have hsplit : first ++ '\'' :: rest =
              first ++ '\'' :: rest.take 3 ++ before ++ '\'' :: rest' := by
            rw [List.append_assoc, List.append_assoc, ← heq, List.cons_append, ← htake]
          have hlast := hescaped _ rest' hsplit
          rw [← hlast]
          simp only [List.append_assoc]
        have hstr' : str =
            front ++ first ++ '\'' :: rest.take 3 ++ rest.drop 3 ++ '\'' :: after := by
          rw [hstr, htext]
        have hat : (front ++ first).length + 4 =
            (front ++ first ++ '\'' :: rest.take 3).length := by
          simp only [List.length_append, List.length_cons, List.length_take]
          omega
        have hjump := ih _ hshorter hfront hescaped' hstr' hat rfl
        rw [leftOver_drop (Nat.le_of_not_lt hshort), htext, hnext]
        rcases hjump with ⟨hleft, s, hs, -, hvalue⟩ | ⟨hleft, e', he', hlate, hvalue⟩
        · refine Or.inl ⟨hleft, s, by omega, ?_, hvalue⟩
          exact ⟨fun heq => absurd heq (by omega), fun hnot => absurd hquote hnot⟩
        · exact Or.inr ⟨hleft, e', hlt.trans he', hlate, hvalue⟩
    · have hleft := leftOver_of_notMem hquote []
      rw [List.append_nil, leftOver] at hleft
      refine Or.inl ⟨hleft, e + 4, Nat.le_refl _, ?_, nextFrom_quote hne hquote hstr he⟩
      exact ⟨fun _ => hquote, fun _ => rfl⟩

theorem closing_eq_cons (rest : List Line) : ∃ after, closing rest = '\'' :: after := by
  cases rest with
  | nil => exact ⟨_, rfl⟩
  | cons text rest => exact ⟨_, rfl⟩

/-- The backslash in front of the quote behind a value is the last character of the value. -/
theorem getLast?_append_eq_slash (hlast : front.getLast? = some '\'') (text : Line) :
    (front ++ text).getLast? = some '\\' ↔ text.getLast? = some '\\' := by
  rw [List.getLast?_append, hlast]
  cases text.getLast? with
  | none =>
    rw [Option.none_or]
    exact ⟨fun h => absurd (Option.some.inj h) (by decide),
      fun h => absurd h (Option.some_ne_none _).symm⟩
  | some c => rw [Option.some_or]

/-- The scan may have passed some characters of the value when it comes to it. -/
theorem nextFrom_entry {rest : List Line} (hlast : front.getLast? = some '\'')
    (hescaped : Escaped text) (hstr : str = front ++ text ++ closing rest)
    (he : e + 4 = front.length + skip) :
    (leftOver skip text = 0 ∧ ∃ s, (s = front.length ↔ skip = 0 ∧ '\'' ∉ text) ∧
        nextFrom str e =
          if text.getLast? = some '\\' then nextFrom str (front ++ text).length
          else some (s, (front ++ text).length)) ∨
      leftOver skip text ≠ 0 ∧ ∃ e',
        e' + 4 = (front ++ text).length + leftOver skip text ∧
          nextFrom str e = nextFrom str e' := by
  have hne : front ≠ [] := by
    rintro rfl
    cases hlast
  obtain ⟨after, hafter⟩ := closing_eq_cons rest
  rw [hafter] at hstr
  by_cases hshort : text.length < skip
  · have hleft := leftOver_of_length_lt hshort
    refine Or.inr ⟨by omega, e, ?_, rfl⟩
    rw [hleft, List.length_append]
    omega
  · have hle := Nat.le_of_not_lt hshort
    have htext : front ++ text = front ++ text.take skip ++ text.drop skip := by
      rw [List.append_assoc, List.take_append_drop]
    have hat : e + 4 = (front ++ text.take skip).length := by
      rw [List.length_append, List.length_take, Nat.min_eq_left hle, he]
    have hinside : ∀ before rest', text.drop skip = before ++ '\'' :: rest' →
        (front ++ text.take skip ++ before).getLast? = some '\\' := by
      intro before rest' heq
      have hsplit : text = text.take skip ++ before ++ '\'' :: rest' := by
        rw [List.append_assoc, ← heq, List.take_append_drop]
      rw [List.append_assoc]
      exact (getLast?_append_eq_slash hlast _).mpr (hescaped _ _ hsplit)
    have hstr' : str = front ++ text.take skip ++ text.drop skip ++ '\'' :: after := by
      rw [hstr, htext]
    have hvalue := nextFrom_value (List.append_ne_nil_of_left_ne_nil hne _) hinside hstr' hat
    rw [leftOver_drop hle]
    rw [← htext] at hvalue
    rcases hvalue with ⟨hleft, s, hs, hiff, hnext⟩ | ⟨hleft, e', -, hlate, hnext⟩
    · refine Or.inl ⟨hleft, s, ⟨fun heq => ?_, ?_⟩, ?_⟩
      · have hzero : skip = 0 := by omega
        rw [hzero, List.drop_zero] at hiff
        exact ⟨hzero, hiff.mp (by omega)⟩
      · rintro ⟨rfl, hnot⟩
        rw [List.drop_zero] at hiff
        rw [hiff.mpr hnot, he, Nat.add_zero]
      · rw [hnext]
        exact if_congr (getLast?_append_eq_slash hlast text) rfl rfl
    · exact Or.inr ⟨hleft, e', hlate, hnext⟩

/-- Behind the last quote of the line there is no value. -/
theorem nextFrom_end (h : str.length ≤ e + 4) : nextFrom str e = none := by
  have hnone := @findChar_eq_none str [] '\'' (e + 4) h List.not_mem_nil
  rw [List.append_nil] at hnone
  exact nextFrom_none hnone

/-- A jump over the end of a value ends at the start of the next one. -/
theorem nextFrom_jump {rest : List Line} {k : Nat} (hstr : str = front ++ closing (text :: rest))
    (hpos : 0 < k) (hle : k ≤ 3) (he : e + 4 = front.length + k) :
    nextFrom str e = some (e + 4, front.length + 3) := by
  have htext : str = front ++ ['\'', ',', ' '] ++ '\'' :: (text ++ closing rest) := by
    rw [hstr, closing_cons]
    simp
  have hsplit : front ++ ['\'', ',', ' '] =
      front ++ ['\'', ',', ' '].take k ++ ['\'', ',', ' '].drop k := by
    rw [List.append_assoc, List.take_append_drop]
  have hquote : '\'' ∉ ['\'', ',', ' '].drop k := by
    have hsome : k = 1 ∨ k = 2 ∨ k = 3 := by omega
    rcases hsome with rfl | rfl | rfl <;> decide
  have hne : front ++ ['\'', ',', ' '].take k ≠ [] := by
    cases k with
    | zero => exact absurd hpos (Nat.lt_irrefl 0)
    | succ k => exact List.append_ne_nil_of_right_ne_nil _ (List.cons_ne_nil _ _)
  have hat : e + 4 = (front ++ ['\'', ',', ' '].take k).length := by
    rw [List.length_append, List.length_take, he]
    exact congrArg _ (Nat.min_eq_left hle).symm
  have hstr' : str = front ++ ['\'', ',', ' '].take k ++ ['\'', ',', ' '].drop k ++
      '\'' :: (text ++ closing rest) := by
    rw [htext, hsplit]
  have hnext := nextFrom_quote hne hquote hstr' hat
  rw [← hsplit] at hnext
  rw [hnext, if_neg, List.length_append]
  · rfl
  · rw [List.getLast?_append]
    intro hspace
    exact absurd (Option.some.inj hspace) (by decide)

theorem nextFrom_last {k : Nat} (hstr : str = front ++ closing []) (hpos : 0 < k)
    (he : e + 4 = front.length + k) : nextFrom str e = none := by
  have htext : str = front ++ ['\''] ++ ");".toList := by
    rw [hstr, List.append_assoc]
    rfl
  refine nextFrom_none ?_
  rw [htext]
  refine findChar_eq_none ?_ (by decide)
  rw [List.length_append, List.length_singleton]
  omega

end Values

/-! ### The values of a line -/

section Runs
variable {str : Line} {e skip : Nat} {text : Line} {rest values : List Line}

/-- The scan comes to the first of the values, and has passed some characters of it. -/
def Enters (str : Line) (e skip : Nat) : List Line → Prop
  | [] => False
  | text :: rest =>
    ∃ front, front.getLast? = some '\'' ∧ str = front ++ text ++ closing rest ∧
      e + 4 = front.length + skip ∧ skip ≤ 3

/-- The start of the next value, from the quote behind a value. -/
theorem enters_next {front : Line} (hstr : str = front ++ closing values) (hskip : skip ≤ 3)
    (he : e = front.length + skip) :
    (values = [] ∧ str.length ≤ e + 4) ∨ Enters str e skip values := by
  cases values with
  | nil =>
    have hlength : (closing []).length = 3 := rfl
    refine Or.inl ⟨rfl, ?_⟩
    rw [hstr, List.length_append, hlength]
    omega
  | cons text rest =>
    have hlength : "', '".toList.length = 4 := rfl
    refine Or.inr ⟨front ++ "', '".toList, ?_, ?_, ?_, hskip⟩
    · rw [List.getLast?_append]
      rfl
    · rw [hstr, closing_cons]
      simp only [List.append_assoc]
    · rw [List.length_append, hlength]
      omega

/-- What one value does to the scan. -/
theorem Enters.step (h : Enters str e skip (text :: rest)) (hescaped : Escaped text) :
    ∃ front, str = front ++ text ++ closing rest ∧ e + 4 = front.length + skip ∧
      ((leave skip text = none ∧ nextFrom str e = nextFrom str (front ++ text).length) ∨
        (leave skip text = some 0 ∧ ∃ s, (s = front.length ↔ skip = 0 ∧ '\'' ∉ text) ∧
          nextFrom str e = some (s, (front ++ text).length)) ∨
        leave skip text = some 3 ∧
          (rest = [] ∧ nextFrom str e = none ∨
            ∃ s, nextFrom str e = some (s, (front ++ text).length + 3))) := by
  obtain ⟨front, hlast, hstr, he, hskip⟩ := h
  refine ⟨front, hstr, he, ?_⟩
  rcases nextFrom_entry hlast hescaped hstr he with ⟨hleft, s, hs, hnext⟩ | ⟨hleft, e', he', hnext⟩
  · rw [leave, if_neg (not_not_intro hleft)]
    by_cases hslash : text.getLast? = some '\\'
    · rw [if_pos hslash] at hnext ⊢
      exact Or.inl ⟨rfl, hnext⟩
    · rw [if_neg hslash] at hnext ⊢
      exact Or.inr (Or.inl ⟨rfl, s, hs, hnext⟩)
  · have hpos := Nat.pos_of_ne_zero hleft
    refine Or.inr (Or.inr ⟨by rw [leave, if_pos hleft], ?_⟩)
    cases rest with
    | nil => exact Or.inl ⟨rfl, hnext.trans (nextFrom_last hstr hpos he')⟩
    | cons text' rest =>
      exact Or.inr ⟨e' + 4, hnext.trans (nextFrom_jump hstr hpos (leftOver_le hskip text) he')⟩

/-- The scan leaves a value that the automaton leaves, and comes to the next one. -/
theorem Enters.leaves (h : Enters str e skip (text :: rest)) (hescaped : Escaped text)
    {skip' : Nat} (hleave : leave skip text = some skip') :
    (rest = [] ∧ nextFrom str e = none) ∨ ∃ s e', nextFrom str e = some (s, e') ∧
      ((rest = [] ∧ str.length ≤ e' + 4) ∨ Enters str e' skip' rest) := by
  obtain ⟨front, hstr, -, hmerge | ⟨hzero, s, -, hnext⟩ | ⟨hthree, hlate | ⟨s, hnext⟩⟩⟩ :=
    h.step hescaped
  · rw [hmerge.1] at hleave
    cases hleave
  · obtain rfl := Option.some.inj (hzero.symm.trans hleave)
    exact Or.inr ⟨s, _, hnext, enters_next hstr (Nat.zero_le 3) rfl⟩
  · exact Or.inl hlate
  · obtain rfl := Option.some.inj (hthree.symm.trans hleave)
    exact Or.inr ⟨s, _, hnext, enters_next hstr (Nat.le_refl 3) rfl⟩

/-- The scan takes the next value for a value that the automaton does not leave. -/
theorem Enters.merges (h : Enters str e skip (text :: rest)) (hescaped : Escaped text)
    (hleave : leave skip text = none) {s e' : Nat} (hnext : nextFrom str e = some (s, e')) :
    ∃ c, Enters str c 0 rest ∧ nextFrom str c = some (s, e') := by
  obtain ⟨front, hstr, -, hmerge | ⟨hzero, -⟩ | ⟨hthree, -⟩⟩ := h.step hescaped
  · rw [hmerge.2] at hnext
    rcases enters_next hstr (Nat.zero_le 3) rfl with ⟨-, hend⟩ | henters
    · rw [nextFrom_end hend] at hnext
      cases hnext
    · exact ⟨_, henters, hnext⟩
  · rw [hzero] at hleave
    cases hleave
  · rw [hthree] at hleave
    cases hleave

/-- The scan goes on behind the value, or further on if it took another value for it. -/
theorem Enters.next (h : Enters str e skip (text :: rest))
    (hescaped : ∀ t ∈ text :: rest, Escaped t) {s e' : Nat}
    (hnext : nextFrom str e = some (s, e')) :
    str.length ≤ e' + 4 ∨ ∃ skip' values', Enters str e' skip' values' ∧ values' <:+ rest ∧
      (values'.length = rest.length → leave skip text = some skip') := by
  induction rest generalizing text skip e with
  | nil =>
    cases hleave : leave skip text with
    | none =>
      obtain ⟨c, hat, -⟩ := h.merges (hescaped _ List.mem_cons_self) hleave hnext
      exact hat.elim
    | some skip' =>
      rcases h.leaves (hescaped _ List.mem_cons_self) hleave with
        ⟨-, hnone⟩ | ⟨s', e'', hsome, ⟨-, hend⟩ | hat⟩
      · rw [hnone] at hnext
        cases hnext
      · obtain rfl := (Prod.mk.inj (Option.some.inj (hsome.symm.trans hnext))).2
        exact Or.inl hend
      · exact hat.elim
  | cons text' rest ih =>
    cases hleave : leave skip text with
    | none =>
      obtain ⟨c, hat, hnext'⟩ := h.merges (hescaped _ List.mem_cons_self) hleave hnext
      have hrest : ∀ t ∈ text' :: rest, Escaped t := fun t hin =>
        hescaped t (List.mem_cons_of_mem _ hin)
      refine (ih hat hrest hnext').imp_right ?_
      rintro ⟨skip', values', hat', hsuffix, -⟩
      refine ⟨skip', values', hat', hsuffix.trans (List.suffix_cons _ _), fun heq => ?_⟩
      have hle := hsuffix.length_le
      rw [List.length_cons] at heq
      omega
    | some skip' =>
      rcases h.leaves (hescaped _ List.mem_cons_self) hleave with
        ⟨hnil, -⟩ | ⟨s', e'', hsome, ⟨hnil, -⟩ | hat⟩
      · cases hnil
      · cases hnil
      · obtain rfl := (Prod.mk.inj (Option.some.inj (hsome.symm.trans hnext))).2
        exact Or.inr ⟨skip', text' :: rest, hat, List.suffix_refl _, fun _ => rfl⟩

/-- The last turn of the loop that counts the values. -/
theorem skipValues_succ (str : Line) (n : Nat) (found : Nat × Nat) :
    skipValues str (n + 1) found =
      (skipValues str n found).bind fun last => nextFrom str last.2 := by
  induction n generalizing found with
  | zero =>
    obtain ⟨s, e⟩ := found
    have hstop : skipValues str 0 = some := rfl
    rw [skipValues, skipValues, hstop, Option.bind_some]
    exact Option.bind_fun_some _
  | succ n ih =>
    obtain ⟨s, e⟩ := found
    rw [skipValues, skipValues, Option.bind_assoc]
    exact congrArg (Option.bind _) (funext ih)

/-- The run of the automaton through the values, or the scan is further on. -/
theorem Enters.run {n s s' e' : Nat} (h : Enters str e skip values)
    (hescaped : ∀ t ∈ values, Escaped t) (hrun : skipValues str n (s, e) = some (s', e')) :
    str.length ≤ e' + 4 ∨ ∃ skip' values', Enters str e' skip' values' ∧ values' <:+ values ∧
      values'.length + n ≤ values.length ∧
      (values'.length + n = values.length → (values.take n).foldlM leave skip = some skip') := by
  induction n generalizing values skip e s with
  | zero =>
    cases hrun
    exact Or.inr ⟨skip, values, h, List.suffix_refl _, Nat.le_refl _, fun _ => rfl⟩
  | succ n ih =>
    cases values with
    | nil => exact h.elim
    | cons text rest =>
      obtain ⟨⟨s₁, e₁⟩, hnext, hrest⟩ := Option.bind_eq_some_iff.mp hrun
      rcases h.next hescaped hnext with hend | ⟨skip₁, values₁, hat, hsuffix, hleave⟩
      · cases n with
        | zero =>
          cases hrest
          exact Or.inl hend
        | succ n =>
          obtain ⟨found, hnone, -⟩ := Option.bind_eq_some_iff.mp hrest
          have hnone' : nextFrom str e₁ = some found := hnone
          rw [nextFrom_end hend] at hnone'
          cases hnone'
      · have hescaped₁ : ∀ t ∈ values₁, Escaped t := fun t hin =>
          hescaped t (List.mem_cons_of_mem _ (hsuffix.mem hin))
        refine (ih hat hescaped₁ hrest).imp_right ?_
        rintro ⟨skip', values', hat', hsuffix', hle, hfold⟩
        have hle₁ := hsuffix.length_le
        refine ⟨skip', values', hat', (hsuffix'.trans hsuffix).trans (List.suffix_cons _ _),
          ?_, fun heq => ?_⟩
        · rw [List.length_cons]
          omega
        · rw [List.length_cons] at heq
          have hlength : values₁.length = rest.length := by omega
          obtain rfl := hsuffix.eq_of_length hlength
          rw [List.take_succ_cons, List.foldlM_cons, hleave rfl]
          exact hfold (by omega)

/-- The automaton runs to a value, so the scan comes to it. -/
theorem Enters.run_of_leaves {before : List Line} (h : Enters str e skip (before ++ text :: rest))
    (hescaped : ∀ t ∈ before, Escaped t) {skip' : Nat}
    (hrun : before.foldlM leave skip = some skip') (s : Nat) :
    ∃ s' e', skipValues str before.length (s, e) = some (s', e') ∧
      Enters str e' skip' (text :: rest) := by
  induction before generalizing skip e s with
  | nil =>
    cases hrun
    exact ⟨s, e, rfl, h⟩
  | cons text' before ih =>
    rw [List.foldlM_cons] at hrun
    obtain ⟨skip₁, hleave, hrest⟩ := Option.bind_eq_some_iff.mp hrun
    rcases h.leaves (hescaped _ List.mem_cons_self) hleave with
      ⟨hnil, -⟩ | ⟨s₁, e₁, hnext, ⟨hnil, -⟩ | hat⟩
    · exact absurd hnil (List.append_ne_nil_of_right_ne_nil _ (List.cons_ne_nil _ _))
    · exact absurd hnil (List.append_ne_nil_of_right_ne_nil _ (List.cons_ne_nil _ _))
    · obtain ⟨s', e', hskip, hat'⟩ :=
        ih hat (fun t hin => hescaped t (List.mem_cons_of_mem _ hin)) hrest s₁
      refine ⟨s', e', ?_, hat'⟩
      rw [List.length_cons, skipValues]
      exact Option.bind_eq_some_iff.mpr ⟨(s₁, e₁), hnext, hskip⟩

/-- Only the scan that comes to the start of a value finds exactly that value. -/
theorem Enters.exact_iff (h : Enters str e skip values) (hescaped : ∀ t ∈ values, Escaped t)
    {front : Line} (hstr : str = front ++ text ++ closing rest)
    (hsuffix : values <:+ text :: rest) :
    nextFrom str e = some (front.length, (front ++ text).length) ↔
      values = text :: rest ∧ skip = 0 ∧ Delimited text := by
  cases values with
  | nil => exact h.elim
  | cons text' rest' =>
    have hstep := h.step (hescaped _ List.mem_cons_self)
    obtain ⟨front', hstr', he, hcases⟩ := hstep
    rcases List.suffix_cons_iff.mp hsuffix with heq | hshorter
    · obtain ⟨rfl, rfl⟩ := List.cons.inj heq
      have hfront : front' = front :=
        List.append_cancel_right (List.append_cancel_right (hstr'.symm.trans hstr))
      rw [hfront] at he hcases
      have hleave : Delimited text' → skip = 0 → leave skip text' = some 0 := by
        rintro ⟨hquote, hslash⟩ rfl
        have hleft := leftOver_of_notMem hquote []
        rw [List.append_nil, leftOver] at hleft
        rw [leave, if_neg (not_not_intro hleft), if_neg hslash]
      constructor
      · intro hfound
        obtain ⟨hnone, hmerge⟩ | ⟨hzero, s, hs, hnext⟩ | ⟨hthree, ⟨-, hnone⟩ | ⟨s, hnext⟩⟩ :=
          hcases
        · have hle := le_of_nextFrom (hmerge.symm.trans hfound)
          rw [List.length_append] at hle
          omega
        · have hstart := (Prod.mk.inj (Option.some.inj (hnext.symm.trans hfound))).1
          obtain ⟨hskip, hquote⟩ := hs.mp hstart
          refine ⟨rfl, hskip, hquote, fun hslash => ?_⟩
          rw [leave, if_pos hslash] at hzero
          split_ifs at hzero
          cases hzero
        · rw [hnone] at hfound
          cases hfound
        · have hend := (Prod.mk.inj (Option.some.inj (hnext.symm.trans hfound))).2
          omega
      · rintro ⟨-, hskip, hdelimited⟩
        have hzero := hleave hdelimited hskip
        obtain ⟨hnone, -⟩ | ⟨-, s, hs, hnext⟩ | ⟨hthree, -⟩ := hcases
        · rw [hnone] at hzero
          cases hzero
        · rw [hnext, hs.mpr ⟨hskip, hdelimited.1⟩]
        · rw [hthree] at hzero
          cases hzero
    · have hlonger : front.length < front'.length := by
        obtain ⟨before, hbefore⟩ := hshorter
        have hseparator : "', '".toList.length = 4 := rfl
        rw [← hbefore, closing_append, hstr'] at hstr
        have hlength := congrArg List.length hstr
        simp only [List.length_append, hseparator] at hlength
        omega
      constructor
      · intro hfound
        have hle := le_of_nextFrom hfound
        omega
      · rintro ⟨heq, -⟩
        have hle := hshorter.length_le
        rw [heq, List.length_cons] at hle
        omega

end Runs

/-! ### Access to a field -/

section Access
variable {table : String} {values : List Bytes} {n : Nat}

/-- Where the text of a value stands in the line of a row. -/
def placeOf (table : String) (values : List Bytes) (n : Nat) : Nat × Nat :=
  let before := opening table ++ ahead (texts (values.take n))
  (before.length, (before ++ (texts values).getD n []).length)

theorem getLast?_opening (table : String) : (opening table).getLast? = some '\'' := by
  rw [opening, List.getLast?_append]
  rfl

/-- The quote in front of the first value is found, and the first quote behind it. -/
theorem findnth_eq (htable : '\'' ∉ table.toList) {before rest : Line} (hbefore : '\'' ∉ before)
    (n : Nat) :
    findnth (opening table ++ before ++ '\'' :: rest) (n + 1) =
      if before.getLast? = some '\\' then none
      else skipValues (opening table ++ before ++ '\'' :: rest) n
        ((opening table).length, (opening table ++ before).length) := by
  have hne : opening table ≠ [] := by
    intro hnil
    have hlast := getLast?_opening table
    rw [hnil] at hlast
    cases hlast
  have hvalues := findText_values htable (before ++ '\'' :: rest)
  have hstart : (head table).length + 9 = (opening table).length := by
    rw [opening, List.length_append]
    rfl
  have hchar := @findChar_append (opening table) before rest '\'' hbefore
  have hat := getElem?_before (List.append_ne_nil_of_left_ne_nil hne before) ('\'' :: rest)
  have hslash := getLast?_append_eq_slash (getLast?_opening table) before
  rw [← List.append_assoc] at hvalues
  rw [List.length_append] at hat
  rw [findnth, hvalues]
  dsimp only
  rw [hstart, hchar]
  dsimp only
  rw [hat, List.length_append]
  exact if_congr hslash rfl rfl

/-- A quote in the first value, or a backslash at its end, and the reader does not come to an
end. -/
theorem findnth_of_first (htable : '\'' ∉ table.toList) {first : Line} (hescaped : Escaped first)
    {rest : List Line} :
    (¬ Delimited first → findnth (opening table ++ first ++ closing rest) (n + 1) = none) ∧
      (Delimited first → findnth (opening table ++ first ++ closing rest) (n + 1) =
        skipValues (opening table ++ first ++ closing rest) n
          ((opening table).length, (opening table ++ first).length)) := by
  obtain ⟨after, hafter⟩ := closing_eq_cons rest
  rw [hafter]
  refine ⟨fun hnot => ?_, fun hdelimited => ?_⟩
  · by_cases hquote : '\'' ∈ first
    · obtain ⟨before, rest', rfl, hbefore⟩ := List.eq_append_cons_of_mem hquote
      have hlast := hescaped before rest' rfl
      have hfind := @findnth_eq table htable before (rest' ++ '\'' :: after) hbefore n
      rw [if_pos hlast] at hfind
      rw [← hfind]
      simp only [List.append_assoc, List.cons_append]
    · have hslash : first.getLast? = some '\\' := by
        by_contra hne
        exact hnot ⟨hquote, hne⟩
      rw [findnth_eq htable hquote, if_pos hslash]
  · rw [findnth_eq htable hdelimited.1, if_neg hdelimited.2]

theorem texts_append (before after : List Bytes) :
    texts (before ++ after) = texts before ++ texts after := List.map_append

theorem placeOf_append (table : String) (before : List Bytes) (value : Bytes)
    (after : List Bytes) :
    placeOf table (before ++ value :: after) before.length =
      ((opening table ++ ahead (texts before)).length,
        (opening table ++ ahead (texts before) ++ escape (chars value)).length) := by
  have hlength : before.length = (texts before).length := (List.length_map _).symm
  rw [placeOf, List.take_left, texts_append, hlength,
    List.getD_append_right _ _ _ _ (Nat.le_refl _), Nat.sub_self]
  rfl

theorem reached_append {first : Line} {before after : List Line} :
    Reached (first :: (before ++ text :: after)) (before.length + 1) ↔
      Delimited first ∧ before.foldlM leave 0 = some 0 ∧ Delimited text := by
  rw [Reached, List.head?_cons, List.take_succ_cons, List.tail_cons, List.take_left,
    List.getElem?_cons_succ, List.getElem?_append_right (Nat.le_refl _), Nat.sub_self]
  simp only [Option.mem_def, Option.some.injEq, forall_eq', List.getElem?_cons_zero]

/-- Behind a delimited first value, the reader finds a value exactly if the automaton runs to
it. -/
theorem skipValues_iff {first : Line} {before after : List Line} {str : Line}
    (hstr : str = opening table ++ first ++ closing (before ++ text :: after))
    (hescaped : ∀ t ∈ before ++ text :: after, Escaped t) :
    skipValues str (before.length + 1) ((opening table).length, (opening table ++ first).length) =
        some ((opening table ++ first ++ "', '".toList ++ ahead before).length,
          (opening table ++ first ++ "', '".toList ++ ahead before ++ text).length) ↔
      before.foldlM leave 0 = some 0 ∧ Delimited text := by
  have hne : before ++ text :: after ≠ [] :=
    List.append_ne_nil_of_right_ne_nil _ (List.cons_ne_nil _ _)
  have hsplit : str =
      opening table ++ first ++ "', '".toList ++ ahead before ++ text ++ closing after := by
    rw [hstr, closing_append]
    simp only [List.append_assoc]
  have henters : Enters str (opening table ++ first).length 0 (before ++ text :: after) :=
    (enters_next hstr (Nat.zero_le 3) rfl).resolve_left fun hend => hne hend.1
  have hvalue : ∀ t ∈ text :: after, Escaped t := fun t hin =>
    hescaped t (List.mem_append_right _ hin)
  rw [skipValues_succ]
  constructor
  · intro hfound
    obtain ⟨⟨s', e'⟩, hrun, hlast⟩ := Option.bind_eq_some_iff.mp hfound
    dsimp only at hlast
    rcases henters.run hescaped hrun with hend | ⟨skip', values', hat, hsuffix, hle, hfold⟩
    · rw [nextFrom_end hend] at hlast
      cases hlast
    · rw [List.length_append] at hle hfold
      have hsuffix' : values' <:+ text :: after :=
        List.suffix_of_suffix_length_le hsuffix (List.suffix_append before _) (by omega)
      have hescaped' : ∀ t ∈ values', Escaped t := fun t hin => hvalue t (hsuffix'.mem hin)
      obtain ⟨rfl, rfl, hdelimited⟩ := (hat.exact_iff hescaped' hsplit hsuffix').mp hlast
      rw [List.take_left] at hfold
      exact ⟨hfold (Nat.add_comm _ _), hdelimited⟩
  · rintro ⟨hfold, hdelimited⟩
    have hbefore : ∀ t ∈ before, Escaped t := fun t hin => hescaped t (List.mem_append_left _ hin)
    obtain ⟨s', e', hrun, hat⟩ := henters.run_of_leaves hbefore hfold (opening table).length
    rw [hrun, Option.bind_some]
    exact (hat.exact_iff hvalue hsplit (List.suffix_refl _)).mpr ⟨rfl, rfl, hdelimited⟩

/-- The reader finds a value of the line of a row exactly if the scan reaches it. -/
theorem findnth_iff (htable : '\'' ∉ table.toList) (hn : n < values.length) :
    findnth (dumpLine table values) (n + 1) = some (placeOf table values n) ↔
      Reached (texts values) n := by
  cases values with
  | nil => exact absurd hn (Nat.not_lt_zero n)
  | cons first rest =>
    have hline := dumpLine_cons table first rest
    obtain ⟨hnot, hfirst⟩ :=
      @findnth_of_first table n htable _ (escaped_escape (chars first)) (texts rest)
    rw [← hline] at hnot hfirst
    by_cases hdelimited : Delimited (escape (chars first))
    · rw [hfirst hdelimited]
      cases n with
      | zero =>
        have hplace := placeOf_append table [] first rest
        rw [List.nil_append, texts, List.map_nil, ahead, List.flatMap_nil,
          List.append_nil] at hplace
        refine iff_of_true (congrArg some hplace.symm) ⟨?_, rfl, ?_⟩
        · rintro text ⟨⟩
          exact hdelimited
        · rintro text ⟨⟩
          exact hdelimited
      | succ n =>
        obtain ⟨before, value, after, rfl, rfl⟩ :
            ∃ before value after, rest = before ++ value :: after ∧ before.length = n := by
          have hlt := Nat.lt_of_succ_lt_succ hn
          refine ⟨rest.take n, rest[n], rest.drop (n + 1), ?_, ?_⟩
          · rw [List.getElem_cons_drop, List.take_append_drop]
          · rw [List.length_take, Nat.min_eq_left (Nat.le_of_lt hlt)]
        have hplace := placeOf_append table (first :: before) value after
        have hlength : before.length = (texts before).length := (List.length_map _).symm
        rw [List.cons_append, List.length_cons, texts_cons, ahead_cons] at hplace
        rw [texts_append, texts_cons] at hline
        have hescaped :
            ∀ t ∈ texts before ++ escape (chars value) :: texts after, Escaped t := by
          intro t hin
          rw [← texts_cons, ← texts_append] at hin
          exact escaped_of_mem_texts hin
        have hskip := skipValues_iff hline hescaped
        rw [hplace, texts_cons, texts_append, texts_cons, hlength, reached_append,
          and_iff_right hdelimited, ← hskip]
        simp only [List.append_assoc]
    · rw [hnot hdelimited]
      exact iff_of_false (Option.some_ne_none _).symm fun hreached =>
        hdelimited (hreached.1 _ rfl)

/-- A value that the reader finds is replaced by the text it is given. -/
theorem changenth_of_findnth (hn : n < values.length)
    (hfind : findnth (dumpLine table values) (n + 1) = some (placeOf table values n))
    (value : Bytes) :
    changenth (dumpLine table values) (n + 1) (escape (chars value)) false false =
      some (dumpLine table (values.set n value)) := by
  obtain ⟨before, old, after, rfl, rfl⟩ :
      ∃ before old after, values = before ++ old :: after ∧ before.length = n := by
    refine ⟨values.take n, values[n], values.drop (n + 1), ?_, ?_⟩
    · rw [List.getElem_cons_drop, List.take_append_drop]
    · rw [List.length_take, Nat.min_eq_left (Nat.le_of_lt hn)]
  have hset : (before ++ old :: after).set before.length value = before ++ value :: after := by
    rw [List.set_append_right _ _ (Nat.le_refl _), Nat.sub_self, List.set_cons_zero]
  have hlength : ∀ text : Line, ((opening table ++ ahead (texts before)) ++ text).length -
      (opening table ++ ahead (texts before)).length = text.length := by
    intro text
    rw [List.length_append, Nat.add_sub_cancel_left]
  rw [changenth, hfind, placeOf_append, hset, dumpLine_append, dumpLine_append]
  simp only [Bool.false_and, Bool.false_eq_true, if_false, Bool.not_false, if_true, hlength,
    replaceAt_append]

/-- The reader finds the escaped text of a value and replaces it by the escaped text of another
one, exactly if the scan reaches the value. -/
theorem fieldAccess_iff (table : String) (htable : '\'' ∉ table.toList) (values : List Bytes)
    (n : Nat) (hn : n < values.length) :
    (findnth (dumpLine table values) (n + 1) = some (placeOf table values n) ∧
        ∀ value : Bytes,
          changenth (dumpLine table values) (n + 1) (escape (chars value)) false false =
            some (dumpLine table (values.set n value))) ↔
      Reached (texts values) n := by
  refine ⟨fun h => (findnth_iff htable hn).mp h.1, fun hreached => ?_⟩
  have hfind := (findnth_iff htable hn).mpr hreached
  exact ⟨hfind, changenth_of_findnth hn hfind⟩

/-- A row of texts, as UTF-8. -/
def utf8Row (values : List String) : List Bytes :=
  values.map fun value => value.toList.flatMap String.utf8EncodeChar

/-- Two values with a quote are passed, one of them with a letter of two bytes, and the reader comes
to the third one, which has none. -/
theorem fieldAccess_behind_quotes :
    findnth (dumpLine "character_equipmentsets" (utf8Row ["7", "d'où", "l'une", "2"])) 4 =
        some (placeOf "character_equipmentsets" (utf8Row ["7", "d'où", "l'une", "2"]) 3) ∧
      ∀ value : Bytes,
        changenth (dumpLine "character_equipmentsets" (utf8Row ["7", "d'où", "l'une", "2"])) 4
            (escape (chars value)) false false =
          some (dumpLine "character_equipmentsets"
            ((utf8Row ["7", "d'où", "l'une", "2"]).set 3 value)) :=
  (fieldAccess_iff "character_equipmentsets" (by decide) (utf8Row ["7", "d'où", "l'une", "2"]) 3
    (by decide)).mpr (by decide)

/-- Behind a quote near the end of a value the scan enters the next value too late. -/
theorem quoted_not_accessed :
    ¬ (findnth (dumpLine "character_equipmentsets" (utf8Row ["7", "it's", "2"])) 3 =
          some (placeOf "character_equipmentsets" (utf8Row ["7", "it's", "2"]) 2) ∧
        ∀ value : Bytes,
          changenth (dumpLine "character_equipmentsets" (utf8Row ["7", "it's", "2"])) 3
              (escape (chars value)) false false =
            some (dumpLine "character_equipmentsets"
              ((utf8Row ["7", "it's", "2"]).set 2 value))) := by
  rintro ⟨hfind, -⟩
  have htable : '\'' ∉ "character_equipmentsets".toList := by decide
  have hn : 2 < (utf8Row ["7", "it's", "2"]).length := by decide
  exact absurd ((findnth_iff htable hn).mp hfind) (by decide)

end Access

end Cataclysm.Tools
