import Cataclysm.Tools.PlayerDump

/-!
# The lines of a dump

The reader changes a dump line by line, as text: it counts the quotes to find a value, and
replaces the value in place. On the line of a row whose values have no quote this is the change of
one value of the row, and values that end in a backslash are passed over.

## Implementation notes

A position is an index of the text. A search behind the end of the text finds nothing. The loop
that looks for the end of the first value does not move on when it meets an escaped quote, so it
does not end; here it finds nothing. `valuesOf` reads a statement as the database does, for values
without quotes.
-/

namespace Cataclysm.Tools

/-- The text of a `std::string`, with a character for each byte. -/
abbrev Line := List Char

/-! ### Low level functions -/

/-- `find` of a character, from a position on. -/
def findChar (str : Line) (c : Char) (pos : Nat) : Option Nat :=
  ((str.drop pos).findIdx? fun c' => c' == c).map fun i => pos + i

/-- `find` of a text. -/
def findText (pattern : Line) : Line → Option Nat
  | [] => if pattern.isEmpty then some 0 else none
  | c :: rest =>
    if pattern.isPrefixOf (c :: rest) then some 0
    else (findText pattern rest).map fun i => i + 1

/-- `replace` of a number of characters at a position. -/
def replaceAt (str : Line) (pos len : Nat) (replacement : Line) : Line :=
  str.take pos ++ replacement ++ str.drop (pos + len)

/-- The loop of `findnth` to the next value. -/
def nextValue (str : Line) : Nat → Nat → Option (Nat × Nat)
  | 0, _ => none
  | fuel + 1, e =>
    let s := e + 4
    match findChar str '\'' s with
    | none => none
    | some e => if str[e - 1]? = some '\\' then nextValue str fuel e else some (s, e)

def skipValues (str : Line) : Nat → Nat × Nat → Option (Nat × Nat)
  | 0, found => some found
  | n + 1, (_, e) => (nextValue str str.length e).bind (skipValues str n)

/-- Where the `n`th value starts and ends. -/
def findnth (str : Line) (n : Nat) : Option (Nat × Nat) :=
  let s := match findText "VALUES ('".toList str with
    | some i => i + 9
    | none => 8
  match findChar str '\'' s with
  | none => none
  | some e => if str[e - 1]? = some '\\' then none else skipValues str (n - 1) (s, e)

def gettablename (str : Line) : Line :=
  match findChar str '`' 13 with
  | none => []
  | some e => (str.drop 13).take (e - 13)

def changenth (str : Line) (n : Nat) (replacement : Line) (insert nonzero : Bool) :
    Option Line :=
  match findnth str n with
  | none => none
  | some (s, e) =>
    if nonzero && (str.drop s).take (e - s) == ['0'] then some str
    else if !insert then some (replaceAt str s (e - s) replacement)
    else some (replaceAt str s 0 replacement)

def getnth (str : Line) (n : Nat) : Line :=
  match findnth str n with
  | none => []
  | some (s, e) => (str.drop s).take (e - s)

/-- `'NULL'`, as an escaped value. -/
def nullString : Line := "'NULL'".toList

/-- The loop of `fixNULLfields`. -/
def fixNULLs : Nat → Line → Line
  | 0, line => line
  | fuel + 1, line =>
    match findText nullString line with
    | none => line
    | some pos => fixNULLs fuel (replaceAt line pos nullString.length "NULL".toList)

/-- `fixNULLfields`: each turn shortens the line. -/
def fixNULLfields (line : Line) : Line := fixNULLs line.length line

/-! ### Searches -/

variable {pattern rest before value : Line}

theorem findText_of_prefix (hne : pattern ≠ []) : findText pattern (pattern ++ rest) = some 0 := by
  cases pattern with
  | nil => exact absurd rfl hne
  | cons c pattern' =>
    rw [List.cons_append, findText, if_pos]
    exact List.isPrefixOf_iff_prefix.mpr (List.prefix_append (c :: pattern') rest)

/-- A text that does not start as the pattern does is passed over. -/
theorem findText_cons {c : Char} (h : ¬ pattern <+: c :: rest) :
    findText pattern (c :: rest) = (findText pattern rest).map fun i => i + 1 := by
  rw [findText, if_neg]
  exact fun hprefix => h (List.isPrefixOf_iff_prefix.mp hprefix)

/-- Characters that the pattern does not start with are passed over. -/
theorem findText_append {first : Char} (h : ∀ c ∈ before, c ≠ first) :
    findText (first :: pattern) (before ++ rest) =
      (findText (first :: pattern) rest).map fun i => before.length + i := by
  induction before with
  | nil =>
    rw [List.nil_append, List.length_nil]
    simp only [Nat.zero_add, Option.map_id']
  | cons c before ih =>
    have hhead : ¬ (first :: pattern) <+: c :: (before ++ rest) :=
      fun hprefix => h c List.mem_cons_self (List.cons_prefix_cons.mp hprefix).1.symm
    rw [List.cons_append, findText_cons hhead,
      ih fun c hin => h c (List.mem_cons_of_mem _ hin), Option.map_map, List.length_cons]
    exact congrArg (fun f => Option.map f (findText (first :: pattern) rest))
      (funext fun i => Nat.add_right_comm before.length i 1)

/-- The search for the end of a value. -/
theorem findChar_append {before value after : Line} {c : Char} (h : c ∉ value) :
    findChar (before ++ value ++ c :: after) c before.length =
      some (before.length + value.length) := by
  have hfind : (value ++ c :: after).findIdx? (fun c' => c' == c) = some value.length := by
    induction value with
    | nil => rw [List.nil_append, List.findIdx?_cons, beq_self_eq_true, if_pos rfl, List.length_nil]
    | cons d value ih =>
      have hne : (d == c) = false :=
        beq_eq_false_iff_ne.mpr fun heq => h (heq ▸ List.mem_cons_self)
      rw [List.cons_append, List.findIdx?_cons, hne, if_neg Bool.false_ne_true,
        ih fun hin => h (List.mem_cons_of_mem _ hin)]
      rfl
  rw [findChar, List.append_assoc, List.drop_left, hfind]
  rfl

theorem replaceAt_append (before value after replacement : Line) :
    replaceAt (before ++ value ++ after) before.length value.length replacement =
      before ++ replacement ++ after := by
  rw [replaceAt, ← List.length_append, List.drop_left, List.append_assoc before value,
    List.take_left]

/-! ### The lines of rows -/

/-- A value without quotes. -/
def Clean (value : Line) : Prop := '\'' ∉ value

/-- What stands behind a value. -/
def behind : List Line → Line
  | [] => "');\n".toList
  | value :: rest => "', '".toList ++ value ++ behind rest

/-- What stands before a value. -/
def ahead (values : List Line) : Line := values.flatMap fun value => value ++ "', '".toList

/-- The text before the values. -/
def head (table : String) : Line := "INSERT INTO `".toList ++ table.toList ++ "` ".toList

theorem head_eq (table : String) :
    head table = "INSERT INTO `".toList ++ table.toList ++ "` ".toList := rfl

/-- The line of a row that has a value. -/
def lineOf (table : String) (before : List Line) (value : Line) (after : List Line) : Line :=
  head table ++ "VALUES ('".toList ++ ahead before ++ value ++ behind after

/-- The line of a row. -/
def renderRow (table : String) : List Line → Line
  | [] => head table ++ "VALUES ();\n".toList
  | value :: rest => lineOf table [] value rest

theorem ahead_cons (value : Line) (rest : List Line) :
    ahead (value :: rest) = value ++ "', '".toList ++ ahead rest := List.flatMap_cons

theorem behind_cons (value : Line) (rest : List Line) :
    behind (value :: rest) = "', '".toList ++ value ++ behind rest := rfl

theorem behind_append (before : List Line) (value : Line) (after : List Line) :
    behind (before ++ value :: after) =
      "', '".toList ++ ahead before ++ value ++ behind after := by
  induction before with
  | nil => rw [List.nil_append, behind_cons, ahead, List.flatMap_nil, List.append_nil]
  | cons value' before ih =>
    rw [List.cons_append, behind_cons, ih, ahead_cons]
    simp only [List.append_assoc]

/-- The line of a row, around one of its values. -/
theorem renderRow_append (table : String) (before : List Line) (value : Line)
    (after : List Line) :
    renderRow table (before ++ value :: after) = lineOf table before value after := by
  cases before with
  | nil => rfl
  | cons value' before =>
    rw [List.cons_append, renderRow, lineOf, lineOf, behind_append, ahead_cons, ahead,
      List.flatMap_nil]
    simp only [List.append_assoc, List.nil_append]

theorem behind_eq_cons (values : List Line) : ∃ rest, behind values = '\'' :: rest := by
  cases values with
  | nil => exact ⟨_, rfl⟩
  | cons value rest => exact ⟨_, rfl⟩

/-- The end of a value is found from its start. -/
theorem findChar_value {rest : List Line} (hclean : Clean value) :
    findChar (before ++ value ++ behind rest) '\'' before.length =
      some (before.length + value.length) := by
  obtain ⟨after, hafter⟩ := behind_eq_cons rest
  rw [hafter, findChar_append hclean]

/-! ### The values of a row -/

variable {table : String}

/-- The text in front of the first value. -/
def opening (table : String) : Line := head table ++ "VALUES ('".toList

theorem lineOf_eq (table : String) (before : List Line) (value : Line) (after : List Line) :
    lineOf table before value after =
      opening table ++ ahead before ++ value ++ behind after := rfl

theorem findText_text {first : Char} {pattern text before rest : Line}
    (htext : text = first :: pattern) (h : ∀ c ∈ before, c ≠ first) :
    findText text (before ++ (text ++ rest)) = some before.length := by
  rw [htext, findText_append h, findText_of_prefix (List.cons_ne_nil _ _), Option.map_some,
    Nat.add_zero]

theorem notMem_head (htable : 'V' ∉ table.toList) : 'V' ∉ head table := by
  have hfirst : 'V' ∉ "INSERT INTO `".toList := by decide
  have hlast : 'V' ∉ "` ".toList := by decide
  rw [head_eq, List.mem_append, List.mem_append, not_or, not_or]
  exact ⟨⟨hfirst, htable⟩, hlast⟩

theorem findText_opening (htable : 'V' ∉ table.toList) (rest : Line) :
    findText "VALUES ('".toList (opening table ++ rest) = some (head table).length := by
  have hpattern : "VALUES ('".toList = 'V' :: "ALUES ('".toList := rfl
  have hfind := @findText_text _ _ _ _ rest hpattern
    fun c hin heq => notMem_head htable (heq ▸ hin)
  rw [← List.append_assoc] at hfind
  exact hfind

/-- The line of a row, around the value of a column. -/
theorem renderRow_split (table : String) {row : List Line} {n : Nat} (hn : n < row.length) :
    renderRow table row =
      opening table ++ ahead (row.take n) ++ row[n] ++ behind (row.drop (n + 1)) := by
  rw [← lineOf_eq, ← renderRow_append, ← List.drop_eq_getElem_cons hn, List.take_append_drop]

/-- Where the value of a column stands. -/
def placeIn (table : String) (row : List Line) (n : Nat) : Nat × Nat :=
  let start := (opening table ++ ahead (row.take n)).length
  (start, start + (row.getD n []).length)

section Places

variable {row : List Line} {n i : Nat} {found : Nat × Nat}

theorem placeIn_snd (hn : n < row.length) :
    (placeIn table row n).2 = (placeIn table row n).1 + row[n].length := by
  rw [placeIn, List.getD_eq_getElem row [] hn]

/-- A value starts four characters behind the end of the one before. -/
theorem placeIn_succ (hn : n < row.length) :
    (placeIn table row (n + 1)).1 = (placeIn table row n).2 + 4 := by
  have hahead : ahead (row.take (n + 1)) = ahead (row.take n) ++ (row[n] ++ "', '".toList) := by
    rw [← List.take_concat_get' row n hn, ahead, List.flatMap_append, List.flatMap_singleton]
    rfl
  have hlength : "', '".toList.length = 4 := rfl
  rw [placeIn_snd hn, placeIn, placeIn, hahead]
  simp only [List.length_append, hlength]
  omega

theorem findChar_placeIn (hrow : ∀ v ∈ row, Clean v) (hn : n < row.length) :
    findChar (renderRow table row) '\'' (placeIn table row n).1 =
      some (placeIn table row n).2 := by
  rw [placeIn_snd hn, renderRow_split table hn]
  exact findChar_value (hrow _ (List.getElem_mem hn))

/-- Behind the last value there is no quote but its own. -/
theorem findChar_last (hn : n + 1 = row.length) :
    findChar (renderRow table row) '\'' ((placeIn table row n).2 + 4) = none := by
  have hlt : n < row.length := hn ▸ Nat.lt_succ_self n
  have hbehind : (behind []).length = 4 := rfl
  have hlength : (renderRow table row).length = (placeIn table row n).2 + 4 := by
    rw [placeIn_snd hlt, renderRow_split table hlt, List.drop_of_length_le hn.ge,
      List.length_append, hbehind, List.length_append]
    rfl
  rw [findChar, List.drop_of_length_le hlength.le]
  rfl

/-- From the end of a value the reader comes to a later one. It passes those that end in a
backslash. -/
theorem nextValue_renderRow (hrow : ∀ v ∈ row, Clean v) {fuel : Nat} (hi : i < row.length)
    (h : nextValue (renderRow table row) fuel (placeIn table row i).2 = some found) :
    ∃ j, i < j ∧ j < row.length ∧ found = placeIn table row j := by
  induction fuel generalizing i with
  | zero => cases h
  | succ fuel ih =>
    rw [nextValue] at h
    by_cases hnext : i + 1 < row.length
    · rw [← placeIn_succ hi, findChar_placeIn hrow hnext] at h
      dsimp only at h
      split at h
      · obtain ⟨j, hlt, hj⟩ := ih hnext h
        exact ⟨j, Nat.lt_of_succ_lt hlt, hj⟩
      · exact ⟨i + 1, Nat.lt_succ_self i, hnext, (Option.some.inj h).symm⟩
    · rw [findChar_last (Nat.le_antisymm hi (Nat.le_of_not_lt hnext))] at h
      cases h

theorem skipValues_renderRow (hrow : ∀ v ∈ row, Clean v) (hi : i < row.length)
    (h : skipValues (renderRow table row) n (placeIn table row i) = some found) :
    ∃ j, i + n ≤ j ∧ j < row.length ∧ found = placeIn table row j := by
  induction n generalizing i with
  | zero => exact ⟨i, Nat.le_refl i, hi, (Option.some.inj h).symm⟩
  | succ n ih =>
    obtain ⟨next, hnext, hrest⟩ := Option.bind_eq_some_iff.mp h
    obtain ⟨j, hlt, hj, rfl⟩ := nextValue_renderRow hrow hi hnext
    obtain ⟨k, hle, hk⟩ := ih hj hrest
    exact ⟨k, by omega, hk⟩

/-- What the reader finds is a value, the one it looks for or a later one. -/
theorem findnth_renderRow (htable : 'V' ∉ table.toList) (hrow : ∀ v ∈ row, Clean v)
    (hne : row ≠ []) (h : findnth (renderRow table row) (n + 1) = some found) :
    ∃ j, n ≤ j ∧ j < row.length ∧ found = placeIn table row j := by
  have hpos := List.length_pos_iff.mpr hne
  have hstart : (head table).length + 9 = (placeIn table row 0).1 := by
    rw [placeIn, List.take_zero, ahead, List.flatMap_nil, List.append_nil, opening,
      List.length_append]
    rfl
  have hvalues : findText "VALUES ('".toList (renderRow table row) = some (head table).length := by
    rw [renderRow_split table hpos, List.append_assoc, List.append_assoc]
    exact findText_opening htable _
  rw [findnth, hvalues] at h
  dsimp only at h
  rw [hstart, findChar_placeIn hrow hpos] at h
  dsimp only at h
  split at h
  · cases h
  · obtain ⟨j, hle, hj⟩ := skipValues_renderRow hrow hpos h
    exact ⟨j, Nat.zero_add n ▸ hle, hj⟩

/-- A change of the line is a change of a value of the row. -/
theorem changenth_renderRow (htable : 'V' ∉ table.toList) (hrow : ∀ v ∈ row, Clean v)
    (hne : row ≠ []) {replacement line : Line}
    (h : changenth (renderRow table row) (n + 1) replacement false false = some line) :
    ∃ j, n ≤ j ∧ j < row.length ∧ line = renderRow table (row.set j replacement) := by
  rw [changenth] at h
  cases hfind : findnth (renderRow table row) (n + 1) with
  | none =>
    rw [hfind] at h
    cases h
  | some found =>
    obtain ⟨j, hle, hj, rfl⟩ := findnth_renderRow htable hrow hne hfind
    have hset : row.set j replacement = row.take j ++ replacement :: row.drop (j + 1) := by
      rw [List.set_eq_take_append_cons_drop, if_pos hj]
    rw [hfind] at h
    dsimp only at h
    rw [Bool.false_and, if_neg Bool.false_ne_true, Bool.not_false, if_pos rfl, placeIn_snd hj,
      Nat.add_sub_cancel_left, renderRow_split table hj] at h
    refine ⟨j, hle, hj, ?_⟩
    rw [← Option.some.inj h, hset, renderRow_append, lineOf_eq]
    exact replaceAt_append _ _ _ _

end Places

/-! ### Null fields -/

variable {fields : List (Line × Option Line)}

/-- A field of a statement: a quoted value or a null. -/
def fieldText : Option Line → Line
  | none => "NULL".toList
  | some value => '\'' :: value ++ ['\'']

/-- Fields, each behind a separator, up to the end of the statement. -/
def listing (fields : List (Line × Option Line)) : Line :=
  fields.flatMap (fun f => f.1 ++ fieldText f.2) ++ ");\n".toList

/-- The statement with the given fields. -/
def statement (table : String) : List (Option Line) → Line
  | [] => head table ++ "VALUES ();\n".toList
  | field :: rest =>
    listing ((head table ++ "VALUES (".toList, field) :: rest.map fun f => (", ".toList, f))

/-- An escaped null as a null. -/
def unquote (field : Option Line) : Option Line :=
  if field = some "NULL".toList then none else field

/-- A separator has no quote and does not go on as the pattern does. -/
def Separates (separator : Line) : Prop :=
  '\'' ∉ separator ∧ ∃ c rest, separator = c :: rest ∧ c ≠ 'N'

/-- The fields are clean, and so are the separators. -/
def Listed (fields : List (Line × Option Line)) : Prop :=
  ∀ f ∈ fields, Separates f.1 ∧ ∀ value ∈ f.2, Clean value

theorem nullString_eq : nullString = '\'' :: ("NULL".toList ++ ['\'']) := rfl

theorem listing_cons (f : Line × Option Line) (rest : List (Line × Option Line)) :
    listing (f :: rest) = f.1 ++ (fieldText f.2 ++ listing rest) := by
  rw [listing, listing, List.flatMap_cons, List.append_assoc, List.append_assoc]

theorem listing_ne_N (h : Listed fields) : ∃ c rest, listing fields = c :: rest ∧ c ≠ 'N' := by
  cases fields with
  | nil => exact ⟨')', _, rfl, by decide⟩
  | cons f rest =>
    obtain ⟨⟨-, c, separator, hseparator, hne⟩, -⟩ := h f List.mem_cons_self
    refine ⟨c, separator ++ (fieldText f.2 ++ listing rest), ?_, hne⟩
    rw [listing_cons, hseparator, List.cons_append]

theorem findText_null_append (h : '\'' ∉ before) :
    findText nullString (before ++ rest) =
      (findText nullString rest).map fun i => before.length + i := by
  rw [nullString_eq]
  exact findText_append fun _ hin heq => h (heq ▸ hin)

/-- A value between quotes is an escaped null only if it is the text of the null. -/
theorem eq_null_of_startsWith (hclean : '\'' ∉ value)
    (h : "NULL".toList ++ ['\''] <+: value ++ '\'' :: rest) : value = "NULL".toList := by
  obtain ⟨suffix, hsuffix⟩ := h
  rw [List.append_assoc, List.singleton_append] at hsuffix
  have hnull : '\'' ∉ "NULL".toList := by decide
  have htake : ∀ (v after : Line), '\'' ∉ v →
      (v ++ '\'' :: after).takeWhile (fun c => c != '\'') = v := by
    intro v after hv
    rw [List.takeWhile_append_of_pos, List.takeWhile_cons, if_neg (by decide), List.append_nil]
    intro c hin
    exact bne_iff_ne.mpr fun heq => hv (heq ▸ hin)
  have hwhile := congrArg (List.takeWhile fun c => c != '\'') hsuffix
  rw [htake _ _ hnull, htake _ _ hclean] at hwhile
  exact hwhile.symm

/-- A field that is no escaped null is passed over. -/
theorem findText_field {field : Option Line} (hne : field ≠ some "NULL".toList)
    (hclean : ∀ value ∈ field, Clean value) (hlisted : Listed fields) :
    findText nullString (fieldText field ++ listing fields) =
      (findText nullString (listing fields)).map fun i => (fieldText field).length + i := by
  cases field with
  | none =>
    have hquote : '\'' ∉ fieldText none := by decide
    exact findText_null_append hquote
  | some value =>
    have hquote := hclean value rfl
    have hopening : ¬ nullString <+: '\'' :: (value ++ '\'' :: listing fields) := by
      intro hprefix
      rw [nullString_eq, List.cons_prefix_cons] at hprefix
      exact hne (congrArg some (eq_null_of_startsWith hquote hprefix.2))
    have hclosing : ¬ nullString <+: '\'' :: listing fields := by
      obtain ⟨c, rest, hlisting, hc⟩ := listing_ne_N hlisted
      rw [hlisting, nullString_eq, List.cons_prefix_cons]
      intro hprefix
      exact hc (List.cons_prefix_cons.mp hprefix.2).1.symm
    have htext : fieldText (some value) ++ listing fields =
        '\'' :: (value ++ '\'' :: listing fields) := by
      rw [fieldText, List.cons_append, List.cons_append, List.append_assoc,
        List.singleton_append]
    rw [htext, findText_cons hopening, findText_null_append hquote, findText_cons hclosing]
    rw [Option.map_map, Option.map_map, fieldText]
    refine congrArg (fun f => Option.map f (findText nullString (listing fields)))
      (funext fun i => ?_)
    simp only [Function.comp_apply, List.cons_append, List.length_cons, List.length_append,
      List.length_nil]
    omega

/-- The first escaped null is found, or there is none. -/
theorem findText_listing (hlisted : Listed fields) :
    (findText nullString (listing fields) = none ∧ ∀ f ∈ fields, f.2 ≠ some "NULL".toList) ∨
      ∃ before separator after,
        fields = before ++ (separator, some "NULL".toList) :: after ∧
          findText nullString (listing fields) =
            some ((before.flatMap fun f => f.1 ++ fieldText f.2) ++ separator).length := by
  induction fields with
  | nil =>
    refine Or.inl ⟨by decide, ?_⟩
    intro f hin
    cases hin
  | cons f rest ih =>
    obtain ⟨hseparates, hclean⟩ := hlisted f List.mem_cons_self
    have hrest : Listed rest := fun f hin => hlisted f (List.mem_cons_of_mem _ hin)
    rw [listing_cons, findText_null_append hseparates.1]
    by_cases hnull : f.2 = some "NULL".toList
    · refine Or.inr ⟨[], f.1, rest, by rw [List.nil_append, ← hnull], ?_⟩
      have htext : fieldText f.2 = nullString := by
        rw [hnull]
        rfl
      have hne : nullString ≠ [] := by decide
      rw [htext, findText_of_prefix hne, Option.map_some, Nat.add_zero,
        List.flatMap_nil, List.nil_append]
    · rw [findText_field hnull hclean hrest]
      rcases ih hrest with ⟨hfind, hnone⟩ | ⟨before, separator, after, hsplit, hfind⟩
      · refine Or.inl ⟨by rw [hfind]; rfl, ?_⟩
        intro f' hin
        rcases List.mem_cons.mp hin with rfl | htail
        · exact hnull
        · exact hnone f' htail
      · refine Or.inr ⟨f :: before, separator, after, by rw [hsplit, List.cons_append], ?_⟩
        rw [hfind, Option.map_some, Option.map_some, List.flatMap_cons]
        simp only [List.length_append, Nat.add_assoc]

def unquoteAll (fields : List (Line × Option Line)) : List (Line × Option Line) :=
  fields.map fun f => (f.1, unquote f.2)

theorem unquoteAll_of_ne (h : ∀ f ∈ fields, f.2 ≠ some "NULL".toList) :
    unquoteAll fields = fields := by
  rw [unquoteAll]
  conv_rhs => rw [← List.map_id fields]
  refine List.map_congr_left fun f hin => ?_
  rw [unquote, if_neg (h f hin)]
  rfl

def isNull (f : Line × Option Line) : Bool := f.2 == some "NULL".toList

/-- The escaped nulls of the fields become nulls, one by one. -/
theorem fixNULLs_listing {fuel : Nat} (hlisted : Listed fields)
    (hfuel : fields.countP isNull ≤ fuel) :
    fixNULLs fuel (listing fields) = listing (unquoteAll fields) := by
  induction fuel generalizing fields with
  | zero =>
    have hnone := List.countP_eq_zero.mp (Nat.le_zero.mp hfuel)
    rw [fixNULLs, unquoteAll_of_ne fun f hin heq => hnone f hin (beq_iff_eq.mpr heq)]
  | succ fuel ih =>
    rw [fixNULLs]
    rcases findText_listing hlisted with ⟨hfind, hnone⟩ | ⟨before, separator, after, rfl, hfind⟩
    · rw [hfind, unquoteAll_of_ne hnone]
    · have hreplace : replaceAt (listing (before ++ (separator, some "NULL".toList) :: after))
          ((before.flatMap fun f => f.1 ++ fieldText f.2) ++ separator).length
          nullString.length "NULL".toList = listing (before ++ (separator, none) :: after) := by
        have htext : ∀ field, listing (before ++ (separator, field) :: after) =
            ((before.flatMap fun f => f.1 ++ fieldText f.2) ++ separator) ++ fieldText field ++
              listing after := by
          intro field
          rw [listing, listing, List.flatMap_append, List.flatMap_cons]
          simp only [List.append_assoc]
        have hnull : fieldText (some "NULL".toList) = nullString := rfl
        rw [htext, htext, hnull, replaceAt_append]
        rfl
      have hlisted' : Listed (before ++ (separator, none) :: after) := by
        intro f hin
        rcases List.mem_append.mp hin with hbefore | hrest
        · exact hlisted f (List.mem_append_left _ hbefore)
        · rcases List.mem_cons.mp hrest with rfl | hafter
          · refine ⟨(hlisted _ (List.mem_append_right _ List.mem_cons_self)).1, ?_⟩
            intro value hvalue
            cases hvalue
          · exact hlisted f (List.mem_append_right _ (List.mem_cons_of_mem _ hafter))
      have hfuel' : (before ++ (separator, none) :: after).countP isNull ≤ fuel := by
        have hnull : isNull (separator, some "NULL".toList) = true := beq_iff_eq.mpr rfl
        have hnone : ¬ isNull (separator, none) = true := by
          rw [isNull, beq_iff_eq]
          exact fun heq => Option.some_ne_none _ heq.symm
        rw [List.countP_append, List.countP_cons_of_pos hnull] at hfuel
        rw [List.countP_append, List.countP_cons_of_neg hnone]
        omega
      have hunquote : unquoteAll (before ++ (separator, none) :: after) =
          unquoteAll (before ++ (separator, some "NULL".toList) :: after) := by
        rw [unquoteAll, unquoteAll, List.map_append, List.map_append, List.map_cons,
          List.map_cons, unquote, unquote, if_pos rfl]
        rfl
      rw [hfind]
      dsimp only
      rw [hreplace, ih hlisted' hfuel', hunquote]

theorem behind_eq (values : List Line) :
    behind values = '\'' :: listing (values.map fun value => (", ".toList, some value)) := by
  induction values with
  | nil => rfl
  | cons value rest ih =>
    rw [behind_cons, List.map_cons, listing_cons, ih, fieldText]
    have hquote : "', '".toList = '\'' :: (", ".toList ++ ['\'']) := rfl
    rw [hquote]
    simp only [List.append_assoc, List.cons_append, List.nil_append]

/-- The line of a row as a statement without nulls. -/
theorem renderRow_eq (table : String) (row : List Line) :
    renderRow table row = statement table (row.map some) := by
  cases row with
  | nil => rfl
  | cons value rest =>
    have hopening : opening table = head table ++ "VALUES (".toList ++ ['\''] := by
      rw [opening, List.append_assoc]
      rfl
    rw [renderRow, lineOf_eq, behind_eq, ahead, List.flatMap_nil, List.append_nil, hopening,
      List.map_cons, statement, listing_cons, fieldText, List.map_map]
    simp only [List.append_assoc, List.cons_append, List.nil_append]
    rfl

/-- The separators of a statement have no quote. -/
theorem separates_head (htable : '\'' ∉ table.toList) :
    Separates (head table ++ "VALUES (".toList) := by
  have hfirst : '\'' ∉ "INSERT INTO `".toList := by decide
  have hlast : '\'' ∉ "` ".toList := by decide
  have hvalues : '\'' ∉ "VALUES (".toList := by decide
  refine ⟨?_, 'I', "NSERT INTO `".toList ++ table.toList ++ "` ".toList ++ "VALUES (".toList,
    ?_, by decide⟩
  · rw [head_eq, List.mem_append, List.mem_append, List.mem_append, not_or, not_or, not_or]
    exact ⟨⟨⟨hfirst, htable⟩, hlast⟩, hvalues⟩
  · rw [head_eq]
    rfl

theorem length_le_listing (fields : List (Line × Option Line)) :
    fields.length ≤ (listing fields).length := by
  induction fields with
  | nil => exact Nat.zero_le _
  | cons f rest ih =>
    have hfield : 0 < (fieldText f.2).length := by
      cases f.2 with
      | none => decide
      | some value => exact Nat.succ_pos _
    rw [listing_cons, List.length_append, List.length_append, List.length_cons]
    omega

/-- On the line of a row the escaped nulls become nulls. -/
theorem fixNULLfields_renderRow (htable : '\'' ∉ table.toList) {row : List Line} (hne : row ≠ [])
    (hrow : ∀ v ∈ row, Clean v) :
    fixNULLfields (renderRow table row) =
      statement table (row.map fun value => unquote (some value)) := by
  cases row with
  | nil => exact absurd rfl hne
  | cons value rest =>
    have hlisted : Listed ((head table ++ "VALUES (".toList, some value) ::
        (rest.map some).map fun f => (", ".toList, f)) := by
      intro f hin
      rcases List.mem_cons.mp hin with rfl | htail
      · refine ⟨separates_head htable, ?_⟩
        intro v hv
        cases hv
        exact hrow value List.mem_cons_self
      · rw [List.map_map] at htail
        obtain ⟨v, hv, rfl⟩ := List.mem_map.mp htail
        have hcomma : Separates ", ".toList :=
          ⟨by decide, ',', " ".toList, rfl, by decide⟩
        refine ⟨hcomma, ?_⟩
        intro v' hv'
        cases hv'
        exact hrow v (List.mem_cons_of_mem _ hv)
    rw [renderRow_eq, List.map_cons, statement, fixNULLfields,
      fixNULLs_listing hlisted (List.countP_le_length.trans (length_le_listing _)), unquoteAll,
      List.map_cons, List.map_cons, statement, List.map_map, List.map_map, List.map_map]
    rfl

/-! ### Reading a statement -/

/-- A comma outside the quotes ends a value, a bracket the last one. -/
def splitValues : Bool → Line → Line → List Line
  | _, value, [] => [value]
  | quoted, value, c :: rest =>
    if c = '\'' then splitValues (!quoted) (value ++ [c]) rest
    else if quoted then splitValues quoted (value ++ [c]) rest
    else if c = ',' then value :: splitValues quoted [] rest
    else if c = ')' then [value]
    else if c = ' ' then splitValues quoted value rest
    else splitValues quoted (value ++ [c]) rest

/-- The values of a statement. -/
def valuesOf (line : Line) : List Line :=
  match findText "VALUES (".toList line with
  | none => []
  | some i => splitValues false [] (line.drop (i + 8))

theorem splitValues_quoted (h : '\'' ∉ value) (before rest : Line) :
    splitValues true before (value ++ rest) = splitValues true (before ++ value) rest := by
  induction value generalizing before with
  | nil => rw [List.nil_append, List.append_nil]
  | cons c value ih =>
    have hc : c ≠ '\'' := fun heq => h (heq ▸ List.mem_cons_self)
    rw [List.cons_append, splitValues, if_neg hc, if_pos rfl,
      ih fun hin => h (List.mem_cons_of_mem _ hin), List.append_assoc, List.singleton_append]

theorem splitValues_field {field : Option Line} (hclean : ∀ value ∈ field, Clean value)
    (before rest : Line) :
    splitValues false before (fieldText field ++ rest) =
      splitValues false (before ++ fieldText field) rest := by
  cases field with
  | none =>
    have htext : fieldText none = ['N', 'U', 'L', 'L'] := rfl
    simp [htext, splitValues]
  | some value =>
    rw [fieldText, List.cons_append, List.cons_append, List.append_assoc,
      List.singleton_append, splitValues, if_pos rfl, Bool.not_false,
      splitValues_quoted (hclean value rfl), splitValues, if_pos rfl, Bool.not_true]
    simp only [List.append_assoc, List.cons_append, List.nil_append]

theorem splitValues_listing {fields : List (Option Line)} (first : Line)
    (hclean : ∀ field ∈ fields, ∀ value ∈ field, Clean value) :
    splitValues false first (listing (fields.map fun f => (", ".toList, f))) =
      first :: fields.map fieldText := by
  induction fields generalizing first with
  | nil =>
    have htext : listing [] = [')', ';', '\n'] := rfl
    simp [htext, splitValues]
  | cons field rest ih =>
    have hcomma : ∀ tail, splitValues false first (", ".toList ++ tail) =
        first :: splitValues false [] tail := by
      intro tail
      have htext : ", ".toList = [',', ' '] := rfl
      simp [htext, splitValues]
    rw [List.map_cons, listing_cons, hcomma,
      splitValues_field (hclean field List.mem_cons_self), List.nil_append,
      ih _ fun field hin => hclean field (List.mem_cons_of_mem _ hin), List.map_cons]

/-- The values of a statement are the texts of its fields. -/
theorem valuesOf_statement (htable : 'V' ∉ table.toList) {fields : List (Option Line)}
    (hne : fields ≠ []) (hclean : ∀ field ∈ fields, ∀ value ∈ field, Clean value) :
    valuesOf (statement table fields) = fields.map fieldText := by
  cases fields with
  | nil => exact absurd rfl hne
  | cons field rest =>
    have hpattern : "VALUES (".toList = 'V' :: "ALUES (".toList := rfl
    have hfind := @findText_text _ _ _ (head table)
      (fieldText field ++ listing (rest.map fun f => (", ".toList, f))) hpattern
      fun c hin heq => notMem_head htable (heq ▸ hin)
    have hlength : (head table).length + 8 = (head table ++ "VALUES (".toList).length := by
      rw [List.length_append]
      rfl
    rw [← List.append_assoc] at hfind
    rw [statement, listing_cons, valuesOf, hfind]
    dsimp only
    rw [hlength, List.drop_left, splitValues_field (hclean field List.mem_cons_self),
      List.nil_append, splitValues_listing _ fun f hin => hclean f (List.mem_cons_of_mem _ hin),
      List.map_cons]

end Cataclysm.Tools
