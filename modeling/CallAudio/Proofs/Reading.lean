/-
  Written data is read back.

  The reader goes through a text from the left and never looks back, so it has to know from the
  next character alone where a value ends.  A text ends at its closing quote, since quotes inside
  it are escaped; lists and tables end at their brackets; a number ends at the comma or bracket
  behind it.

  * `Datum.Plain`: data that JSON can hold without loss;
  * `Json.Ends`: what can follow a value; `Json.Reads`: a value is read, whatever follows it;
  * `Json.string_escaped`, `Json.number_toDigits`: texts and numbers are read back;
  * `Datum.ofJson?_toJson`: so is all plain data;
  * `Json.printable_render`: what is written stays on its line.
-/
import CallAudio.Json.Read
import CallAudio.Json.Render
import Mathlib.Data.List.TakeDrop
import Mathlib.Tactic.SplitIfs

namespace CallAudio

/-- Data that JSON can hold without loss: the numbers are whole and not negative, and no table has
    a name twice. -/
inductive Datum.Plain : Datum → Prop
  | null : Plain .null
  | bool (truth : Bool) : Plain (.bool truth)
  | integer (n : Nat) : Plain (.integer n)
  | text (content : String) : Plain (.text content)
  | list {items : List Datum} (hitems : ∀ item ∈ items, Plain item) : Plain (.list items)
  | table {entries : List (String × Datum)} (hnames : (entries.map (·.1)).Nodup)
      (hentries : ∀ entry ∈ entries, Plain entry.2) : Plain (.table entries)

namespace Json

/-! ## Texts -/

/-- How a character of a text is written. -/
inductive Escaped (c : Char) : List Char → Prop
  | short (letter : Char) (hletter : shortEscape? letter = some c) : Escaped c ['\\', letter]
  | control (hcontrol : c.toNat < 32) : Escaped c (escapeControl c)
  | itself (hquote : c ≠ '\"') (hbackslash : c ≠ '\\') (hcode : ¬ c.toNat < 32) : Escaped c [c]

theorem escape_escaped (c : Char) : Escaped c (escape c) := by
  unfold escape
  split_ifs with hquote hbackslash _ _ _ _ _ hcontrol
  iterate 7 · subst c; exact .short _ rfl
  · exact .control hcontrol
  · exact .itself hquote hbackslash hcontrol

theorem hexValue?_control : ∀ code < 32,
    Text.hexValue? ['0', '0', (code / 16).digitChar, (code % 16).digitChar] = some code := by
  decide

theorem Escaped.quoted {c : Char} {written : List Char} (h : Escaped c written)
    (rest : List Char) : quoted (written ++ rest) = consCode (some c.toNat) (quoted rest) := by
  cases h with
  | short letter hletter =>
    rw [List.cons_append, List.singleton_append, Json.quoted.eq_def]
    split
    case h_4 heq => cases heq; rw [hletter]; rfl
    case h_5 hother heq => cases heq; exact (hother _ _ rfl rfl).elim
    all_goals simp_all [shortEscape?]
  | control hcontrol => simp [escapeControl, Json.quoted, hexValue?_control c.toNat hcontrol]
  | itself hquote hbackslash hcode =>
    rw [List.singleton_append, Json.quoted.eq_def]
    split
    case h_5 heq => cases heq; exact if_neg hcode
    all_goals simp_all

theorem quoted_flatMap (chars rest : List Char) :
    quoted (chars.flatMap escape ++ '\"' :: rest) = some (chars.map Char.toNat, rest) := by
  induction chars with
  | nil => rfl
  | cons c chars ih =>
    rw [List.flatMap_cons, List.append_assoc, (escape_escaped c).quoted, ih]
    rfl

theorem charOf?_toNat (c : Char) : Text.charOf? c.toNat = some c := by
  have hvalid : c.toNat.isValidChar := c.valid
  rw [Text.charOf?, dif_pos hvalid]
  exact congrArg some (Char.ext (UInt32.toNat_inj.1 rfl))

/-- No character is one half of a surrogate pair. -/
theorem joinSurrogates?_toNat (c : Char) (next : Nat) : joinSurrogates? c.toNat next = none := by
  have hvalid : c.toNat.isValidChar := c.valid
  rw [joinSurrogates?, if_neg]
  rintro ⟨hlow, hhigh, -⟩
  simp only [Nat.isValidChar] at hvalid
  omega

theorem joinCodes_map (chars : List Char) : joinCodes (chars.map Char.toNat) = some chars := by
  induction chars with
  | nil => rfl
  | cons c chars ih =>
    cases chars with
    | nil => simp [joinCodes, charOf?_toNat]
    | cons next chars =>
      simp only [List.map_cons] at ih ⊢
      simp [joinCodes, joinSurrogates?_toNat, charOf?_toNat, ih]

theorem string_escaped (text : String) (rest : List Char) :
    string (text.toList.flatMap escape ++ '\"' :: rest) = some (text, rest) := by
  simp [string, quoted_flatMap, joinCodes_map]

/-! ## Numbers -/

/-- What can follow a value: nothing, or a comma or closing bracket. -/
def Ends (rest : List Char) : Prop := ∀ c ∈ rest.head?, c = ',' ∨ c = ']' ∨ c = '}'

theorem ends_cons {c : Char} (h : c = ',' ∨ c = ']' ∨ c = '}') (rest : List Char) :
    Ends (c :: rest) := by
  intro first hfirst
  cases hfirst
  exact h

theorem ne_of_isDigit {c other : Char} (hc : c.isDigit = true) (hother : other.isDigit = false) :
    c ≠ other := by
  rintro rfl
  exact Bool.noConfusion (hc.symm.trans hother)

theorem isDigit_of_mem_toDigits {n : Nat} {c : Char} (h : c ∈ Nat.toDigits 10 n) :
    c.isDigit = true :=
  Nat.isDigit_of_mem_toDigits (by decide) (by decide) h

theorem toDigits_eq_cons (n : Nat) :
    ∃ c digits, Nat.toDigits 10 n = c :: digits ∧ c.isDigit = true := by
  obtain ⟨c, digits, heq⟩ := List.exists_cons_of_ne_nil (Nat.toDigits_ne_nil (n := n) (b := 10))
  exact ⟨c, digits, heq, isDigit_of_mem_toDigits (heq ▸ List.mem_cons_self)⟩

/-- Only zero begins with a zero. -/
theorem eq_zero_of_head?_toDigits {n : Nat} (h : (Nat.toDigits 10 n).head? = some '0') :
    n = 0 := by
  induction n using Nat.strongRecOn with
  | ind n ih =>
    by_cases hn : n < 10
    · rw [Nat.toDigits_of_lt_base hn] at h
      simpa using h
    · rw [Nat.toDigits_of_base_le (by decide) (by omega), List.head?_append] at h
      obtain ⟨c, digits, hdigits, -⟩ := toDigits_eq_cons (n / 10)
      have hfirst := ih (n / 10) (by omega)
      rw [hdigits] at h hfirst
      have hzero := hfirst h
      omega

theorem digits_toDigits (n : Nat) {rest : List Char} (h : Ends rest) :
    digits (Nat.toDigits 10 n ++ rest) = some (Nat.toDigits 10 n, rest) := by
  have hdigits : ∀ c ∈ Nat.toDigits 10 n, c.isDigit = true := fun c => isDigit_of_mem_toDigits
  have hspan : (Nat.toDigits 10 n ++ rest).span Char.isDigit = (Nat.toDigits 10 n, rest) := by
    rw [List.span_eq_takeWhile_dropWhile, List.takeWhile_append_of_pos hdigits,
      List.dropWhile_append_of_pos hdigits]
    cases rest with
    | nil => simp
    | cons c rest => rcases h c rfl with rfl | rfl | rfl <;> simp [Char.isDigit]
  rw [digits, hspan]
  split
  · next heq => exact absurd (congrArg Prod.fst heq) Nat.toDigits_ne_nil
  · next heq => rw [← heq]

theorem wholeDigits_toDigits (n : Nat) {rest : List Char} (h : Ends rest) :
    wholeDigits (Nat.toDigits 10 n ++ rest) = some (Nat.toDigits 10 n, rest) := by
  rw [wholeDigits, digits_toDigits n h]
  split
  · next heq =>
    have hdigits : Nat.toDigits 10 n = _ := congrArg Prod.fst (Option.some.inj heq)
    have hzero : n = 0 := eq_zero_of_head?_toDigits (by rw [hdigits]; rfl)
    subst hzero
    cases hdigits
  · rfl

theorem fraction_of_ends {rest : List Char} (h : Ends rest) : fraction rest = some ([], rest) := by
  cases rest with
  | nil => rfl
  | cons c rest => rcases h c rfl with rfl | rfl | rfl <;> rfl

theorem exponent_of_ends {rest : List Char} (h : Ends rest) : exponent rest = some ([], rest) := by
  cases rest with
  | nil => rfl
  | cons c rest => rcases h c rfl with rfl | rfl | rfl <;> rfl

theorem number_toDigits (n : Nat) {rest : List Char} (h : Ends rest) :
    number (Nat.toDigits 10 n ++ rest) = some (.integer n, rest) := by
  obtain ⟨c, digits, hdigits, hc⟩ := toDigits_eq_cons n
  have hwhole := wholeDigits_toDigits n h
  have hvalue := Nat.ofDigitChars_toDigits (b := 10) (n := n) (by decide) (by decide)
  have hminus : c ≠ '-' := ne_of_isDigit hc rfl
  rw [hdigits] at hwhole hvalue ⊢
  rw [List.cons_append] at hwhole ⊢
  simp [number, hminus, hwhole, fraction_of_ends h, exponent_of_ends h, hvalue]

/-! ## Lists and tables -/

/-- An entry of a table. -/
def renderEntry (entry : String × Datum) : List Char := quote entry.1 ++ ':' :: render entry.2

theorem renderItems_eq (items : List Datum) : renderItems items = items.map render := by
  induction items with
  | nil => rfl
  | cons item items ih => rw [renderItems, ih, List.map_cons]

theorem renderEntries_eq (entries : List (String × Datum)) :
    renderEntries entries = entries.map renderEntry := by
  induction entries with
  | nil => rfl
  | cons entry entries ih => rw [renderEntries, ih, List.map_cons, renderEntry]

theorem joinCommas_cons (part : List Char) (parts : List (List Char)) :
    joinCommas (part :: parts) = part ++ parts.flatMap (',' :: ·) := by
  induction parts generalizing part with
  | nil => simp [joinCommas]
  | cons next parts ih => rw [joinCommas, ih, List.flatMap_cons, List.cons_append]; simp

theorem length_le_joinCommas {part : List Char} {parts : List (List Char)} (h : part ∈ parts) :
    part.length ≤ (joinCommas parts).length := by
  fun_induction joinCommas parts with
  | case1 => cases h
  | case2 first => exact Nat.le_of_eq (congrArg List.length (List.mem_singleton.1 h))
  | case3 first parts _ ih =>
    rw [List.length_append, List.length_cons]
    rcases List.mem_cons.1 h with rfl | hmem
    · omega
    · have := ih hmem
      omega

theorem count_le_joinCommas (parts : List (List Char)) :
    parts.length ≤ (joinCommas parts).length + 1 := by
  fun_induction joinCommas parts with
  | case1 => exact Nat.zero_le _
  | case2 first => simp
  | case3 first parts _ ih =>
    rw [List.length_append, List.length_cons, List.length_cons]
    omega

/-- A value is read, whatever follows it. -/
def Reads (read : List Char → Option (Datum × List Char)) (datum : Datum) : Prop :=
  ∀ rest, Ends rest → read (render datum ++ rest) = some (datum, rest)

/-- Behind a part there is the next one or the closing bracket. -/
theorem ends_parts {close : Char} (hclose : close = ',' ∨ close = ']' ∨ close = '}')
    (parts : List (List Char)) (rest : List Char) :
    Ends (parts.flatMap (',' :: ·) ++ close :: rest) := by
  cases parts with
  | nil => exact ends_cons hclose rest
  | cons part parts => exact ends_cons (.inl rfl) _

/-- A value begins with a character that neither is skipped nor closes a list. -/
theorem exists_render_eq_cons {datum : Datum} (h : datum.Plain) :
    ∃ c chars, render datum = c :: chars ∧ isBlank c = false ∧ c ≠ ']' := by
  cases h with
  | null => exact ⟨_, _, rfl, rfl, by decide⟩
  | bool truth => cases truth <;> exact ⟨_, _, rfl, rfl, by decide⟩
  | integer n =>
    obtain ⟨c, digits, hdigits, hc⟩ := toDigits_eq_cons n
    refine ⟨c, digits, hdigits, ?_, ne_of_isDigit hc rfl⟩
    simp [isBlank, ne_of_isDigit hc]
  | text content => exact ⟨_, _, rfl, rfl, by decide⟩
  | list => exact ⟨_, _, rfl, rfl, by decide⟩
  | table => exact ⟨_, _, rfl, rfl, by decide⟩

theorem putEntry_of_not_mem {entry : String × Datum} {entries : List (String × Datum)}
    (h : entry.1 ∉ entries.map (·.1)) : putEntry entry entries = entry :: entries := by
  refine if_neg fun hany => h ?_
  obtain ⟨other, hmem, heq⟩ := List.any_eq_true.1 hany
  exact List.mem_map.2 ⟨other, hmem, of_decide_eq_true heq⟩

section

variable {read : List Char → Option (Datum × List Char)} {item : Datum} {items : List Datum}
  {entry : String × Datum} {entries : List (String × Datum)} {fuel : Nat} (rest : List Char)

theorem itemsTail_render (hread : ∀ item ∈ items, Reads read item) (hfuel : items.length < fuel) :
    itemsTail read fuel ((items.map render).flatMap (',' :: ·) ++ ']' :: rest) =
      some (items, rest) := by
  induction items generalizing fuel with
  | nil =>
    obtain ⟨fuel, rfl⟩ := Nat.exists_eq_succ_of_ne_zero (Nat.ne_of_gt hfuel)
    rfl
  | cons item items ih =>
    obtain ⟨fuel, rfl⟩ := Nat.exists_eq_succ_of_ne_zero (Nat.ne_of_gt (Nat.zero_lt_of_lt hfuel))
    obtain ⟨hitem, hitems⟩ := List.forall_mem_cons.1 hread
    have hitem := hitem _ (ends_parts (.inr (.inl rfl)) (items.map render) rest)
    have htail := ih hitems (Nat.lt_of_succ_lt_succ hfuel)
    rw [List.map_cons, List.flatMap_cons, List.append_assoc, List.cons_append]
    simp [itemsTail, skipBlanks, isBlank, hitem, htail]

theorem items_render (hplain : ∀ item ∈ items, item.Plain)
    (hread : ∀ item ∈ items, Reads read item) (hfuel : items.length ≤ fuel) :
    Json.items read fuel (joinCommas (items.map render) ++ ']' :: rest) = some (items, rest) := by
  cases items with
  | nil => rfl
  | cons item items =>
    obtain ⟨hitem, hitems⟩ := List.forall_mem_cons.1 hread
    obtain ⟨c, chars, hrender, hblank, hclose⟩ :=
      exists_render_eq_cons (hplain item List.mem_cons_self)
    have hitem := hitem _ (ends_parts (.inr (.inl rfl)) (items.map render) rest)
    have htail := itemsTail_render rest hitems hfuel
    rw [List.map_cons, joinCommas_cons, List.append_assoc]
    rw [hrender, List.cons_append] at hitem ⊢
    simp [Json.items, skipBlanks, hblank, hclose, hitem, htail]

theorem entry_render (hread : Reads read entry.2) (hrest : Ends rest) :
    Json.entry read (renderEntry entry ++ rest) = some (entry, rest) := by
  have hname := string_escaped entry.1 (':' :: (render entry.2 ++ rest))
  have hvalue := hread rest hrest
  simp [renderEntry, quote, Json.entry, skipBlanks, isBlank, hname, hvalue]

theorem entriesTail_render (hnames : (entries.map (·.1)).Nodup)
    (hread : ∀ entry ∈ entries, Reads read entry.2) (hfuel : entries.length < fuel) :
    entriesTail read fuel ((entries.map renderEntry).flatMap (',' :: ·) ++ '}' :: rest) =
      some (entries, rest) := by
  induction entries generalizing fuel with
  | nil =>
    obtain ⟨fuel, rfl⟩ := Nat.exists_eq_succ_of_ne_zero (Nat.ne_of_gt hfuel)
    rfl
  | cons entry entries ih =>
    obtain ⟨fuel, rfl⟩ := Nat.exists_eq_succ_of_ne_zero (Nat.ne_of_gt (Nat.zero_lt_of_lt hfuel))
    obtain ⟨hnew, hnames⟩ := List.nodup_cons.1 hnames
    obtain ⟨hentry, hentries⟩ := List.forall_mem_cons.1 hread
    have hentry := entry_render _ hentry
      (ends_parts (.inr (.inr rfl)) (entries.map renderEntry) rest)
    have htail := ih hnames hentries (Nat.lt_of_succ_lt_succ hfuel)
    rw [List.map_cons, List.flatMap_cons, List.append_assoc, List.cons_append]
    simp [entriesTail, skipBlanks, isBlank, hentry, htail, putEntry_of_not_mem hnew]

theorem entries_render (hnames : (entries.map (·.1)).Nodup)
    (hread : ∀ entry ∈ entries, Reads read entry.2) (hfuel : entries.length ≤ fuel) :
    Json.entries read fuel (joinCommas (entries.map renderEntry) ++ '}' :: rest) =
      some (entries, rest) := by
  cases entries with
  | nil => rfl
  | cons entry entries =>
    obtain ⟨hnew, hnames⟩ := List.nodup_cons.1 hnames
    obtain ⟨hentry, hentries⟩ := List.forall_mem_cons.1 hread
    obtain ⟨chars, hquote⟩ : ∃ chars, renderEntry entry = '\"' :: chars := ⟨_, rfl⟩
    have hentry := entry_render _ hentry
      (ends_parts (.inr (.inr rfl)) (entries.map renderEntry) rest)
    have htail := entriesTail_render rest hnames hentries hfuel
    rw [List.map_cons, joinCommas_cons, List.append_assoc]
    rw [hquote, List.cons_append] at hentry ⊢
    simp [Json.entries, skipBlanks, isBlank, hentry, htail, putEntry_of_not_mem hnew]

end

/-! ## Values -/

theorem value_list (fuel : Nat) (text : List Char) :
    value (fuel + 1) ('[' :: text) =
      (items (value fuel) fuel text).map fun (items, rest) => (.list items, rest) := rfl

theorem value_table (fuel : Nat) (text : List Char) :
    value (fuel + 1) ('{' :: text) =
      (entries (value fuel) fuel text).map fun (entries, rest) => (.table entries, rest) := rfl

/-- **What is rendered is read back, whatever follows it.** -/
theorem value_render {datum : Datum} (h : datum.Plain) {fuel : Nat}
    (hfuel : (render datum).length ≤ fuel) : Reads (value (fuel + 1)) datum := by
  induction h generalizing fuel with
  | null => exact fun _ _ => rfl
  | bool truth => cases truth <;> exact fun _ _ => rfl
  | integer n =>
    intro rest hrest
    obtain ⟨c, digits, hdigits, hc⟩ := toDigits_eq_cons n
    have hnumber := number_toDigits n hrest
    have hrender : render (.integer n) = Nat.toDigits 10 n := rfl
    rw [hrender]
    rw [hdigits, List.cons_append] at hnumber ⊢
    have hne {other : Char} (hother : other.isDigit = false) : c ≠ other := ne_of_isDigit hc hother
    rw [value, skipBlanks, List.dropWhile_cons_of_neg (by simp [isBlank, hne])]
    split
    case h_7 => exact hnumber
    all_goals simp_all
  | text content =>
    intro rest _
    simp [render, quote, value, skipBlanks, isBlank, string_escaped]
  | @list items hplain ih =>
    intro rest _
    -- one level of nesting takes one unit of fuel, and each item one character at least
    have hlength : (render (.list items)).length = (joinCommas (items.map render)).length + 2 := by
      simp [render, renderItems_eq]
    obtain ⟨fuel, rfl⟩ : ∃ more, fuel = more + 1 := ⟨fuel - 1, by omega⟩
    have hread : ∀ item ∈ items, Reads (value (fuel + 1)) item := by
      intro item hitem
      have hpart := length_le_joinCommas (List.mem_map_of_mem (f := render) hitem)
      exact ih item hitem (by omega)
    have hcount : items.length ≤ fuel + 1 := by
      have := count_le_joinCommas (items.map render)
      rw [List.length_map] at this
      omega
    have hitems := items_render rest hplain hread hcount
    rw [render, renderItems_eq, List.append_assoc, List.cons_append, List.singleton_append,
      value_list, hitems]
    rfl
  | @table entries hnames hplain ih =>
    intro rest _
    have hlength : (render (.table entries)).length =
        (joinCommas (entries.map renderEntry)).length + 2 := by
      simp [render, renderEntries_eq]
    obtain ⟨fuel, rfl⟩ : ∃ more, fuel = more + 1 := ⟨fuel - 1, by omega⟩
    have hread : ∀ entry ∈ entries, Reads (value (fuel + 1)) entry.2 := by
      intro entry hentry
      have hpart := length_le_joinCommas (List.mem_map_of_mem (f := renderEntry) hentry)
      rw [renderEntry, List.length_append, List.length_cons] at hpart
      exact ih entry hentry (by omega)
    have hcount : entries.length ≤ fuel + 1 := by
      have := count_le_joinCommas (entries.map renderEntry)
      rw [List.length_map] at this
      omega
    have hentries := entries_render rest hnames hread hcount
    rw [render, renderEntries_eq, List.append_assoc, List.cons_append, List.singleton_append,
      value_table, hentries]
    rfl

/-! ## Lines -/

/-- There is no control character. -/
def Printable (chars : List Char) : Prop := ∀ c ∈ chars, 32 ≤ c.toNat

instance (chars : List Char) : Decidable (Printable chars) := List.decidableBAll ..

theorem printable_append {chars more : List Char} (h : Printable chars) (hmore : Printable more) :
    Printable (chars ++ more) :=
  List.forall_mem_append.2 ⟨h, hmore⟩

theorem printable_control : ∀ code < 32,
    Printable ['\\', 'u', '0', '0', (code / 16).digitChar, (code % 16).digitChar] := by
  decide

theorem printable_letter {letter c : Char} (h : shortEscape? letter = some c) :
    32 ≤ letter.toNat := by
  unfold shortEscape? at h
  split at h
  case h_9 => cases h
  all_goals decide

theorem Escaped.printable {c : Char} {written : List Char} (h : Escaped c written) :
    Printable written := by
  cases h with
  | short letter hletter =>
    exact List.forall_mem_cons.2 ⟨by decide, List.forall_mem_singleton.2 (printable_letter hletter)⟩
  | control hcontrol => exact printable_control c.toNat hcontrol
  | itself _ _ hcode => exact List.forall_mem_singleton.2 (Nat.le_of_not_lt hcode)

theorem printable_quote (text : String) : Printable (quote text) := by
  refine printable_append (List.forall_mem_cons.2 ⟨by decide, ?_⟩) (by decide)
  intro c hc
  obtain ⟨written, -, hwritten⟩ := List.mem_flatMap.1 hc
  exact (escape_escaped written).printable c hwritten

theorem printable_joinCommas {parts : List (List Char)} (h : ∀ part ∈ parts, Printable part) :
    Printable (joinCommas parts) := by
  fun_induction joinCommas parts with
  | case1 => exact nofun
  | case2 part => exact h part (List.mem_singleton_self _)
  | case3 part parts _ ih =>
    obtain ⟨hpart, hparts⟩ := List.forall_mem_cons.1 h
    exact printable_append hpart (List.forall_mem_cons.2 ⟨by decide, ih hparts⟩)

theorem printable_toDigits (n : Nat) : Printable (Nat.toDigits 10 n) := by
  intro c hc
  have hdigit := isDigit_of_mem_toDigits hc
  simp only [Char.isDigit, Bool.and_eq_true, decide_eq_true_eq] at hdigit
  have hzero : '0'.toNat ≤ c.toNat := hdigit.1
  exact Nat.le_trans (by decide) hzero

/-- **Nothing that is rendered is a control character.** -/
theorem printable_render {datum : Datum} (h : datum.Plain) : Printable (render datum) := by
  induction h with
  | null => decide
  | bool truth => cases truth <;> decide
  | integer n => exact printable_toDigits n
  | text content => exact printable_quote content
  | list _ ih =>
    rw [render, renderItems_eq]
    have hitems := printable_joinCommas (List.forall_mem_map.2 ih)
    exact printable_append (List.forall_mem_cons.2 ⟨by decide, hitems⟩) (by decide)
  | @table entries _ _ ih =>
    rw [render, renderEntries_eq]
    have hentry : ∀ entry ∈ entries, Printable (renderEntry entry) := fun entry hentry =>
      printable_append (printable_quote entry.1)
        (List.forall_mem_cons.2 ⟨by decide, ih entry hentry⟩)
    have hentries := printable_joinCommas (List.forall_mem_map.2 hentry)
    exact printable_append (List.forall_mem_cons.2 ⟨by decide, hentries⟩) (by decide)

end Json

namespace Datum

variable {datum other : Datum}

/-- **What is written as JSON is read back.** -/
theorem ofJson?_toJson (h : datum.Plain) : ofJson? datum.toJson = some datum := by
  have hvalue := Json.value_render h (Nat.le_refl _) [] nofun
  rw [List.append_nil] at hvalue
  simp only [ofJson?, toJson, String.toList_ofList, hvalue]
  rfl

/-- So data that is written alike is the same. -/
theorem toJson_inj (h : datum.Plain) (hother : other.Plain) :
    datum.toJson = other.toJson ↔ datum = other := by
  refine ⟨fun heq => ?_, fun heq => by rw [heq]⟩
  have hread := ofJson?_toJson h
  rw [heq, ofJson?_toJson hother] at hread
  exact (Option.some.inj hread).symm

end Datum

example : (Datum.list [.text "a\n\"", .integer 10, .null]).toJson = "[\"a\\n\\\"\",10,null]" := by
  decide +kernel

end CallAudio
