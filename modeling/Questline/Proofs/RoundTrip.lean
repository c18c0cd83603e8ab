import Mathlib.Data.List.DropRight
import Mathlib.Data.List.TakeWhile
import Mathlib.Data.String.Basic
import Questline.GlobalsFile

/-! What is written can be read again. A text comes back from its bytes, a string from between its
quotes with all its escapes undone, and a file of global variables as the variables it was made
from. -/
namespace Questline

namespace Text.Utf8

theorem toNat_byte {n : Nat} (byte : n < 256) : (UInt8.ofNat n).toNat = n :=
  UInt8.toNat_ofNat_of_lt' byte

theorem decodeFrom_whole {b : UInt8} {c : Char} (rest : List UInt8)
    (whole : begins b.toNat = some (.inl c)) :
    decodeFrom none (b :: rest) = some c :: decodeFrom none rest := by
  simp only [decodeFrom, whole]

theorem decodeFrom_first {b : UInt8} {p : Partial} (rest : List UInt8)
    (begun : begins b.toNat = some (.inr p)) :
    decodeFrom none (b :: rest) = decodeFrom (some p) rest := by
  simp only [decodeFrom, begun]

theorem decodeFrom_next {b : UInt8} {n : Nat} {p : Partial} (rest : List UInt8)
    (byte : b.toNat = n + 128) (low : p.low ≤ n + 128) (high : n + 128 ≤ p.high)
    (more : 1 < p.owed) :
    decodeFrom (some p) (b :: rest) =
      decodeFrom (some ⟨p.value * 64 + n, p.owed - 1, 0x80, 0xBF⟩) rest := by
  have unfinished : ¬ p.owed ≤ 1 := by omega
  simp [decodeFrom, byte, low, high, unfinished]

theorem decodeFrom_last {b : UInt8} {n : Nat} {p : Partial} (rest : List UInt8)
    (byte : b.toNat = n + 128) (low : p.low ≤ n + 128) (high : n + 128 ≤ p.high)
    (last : p.owed = 1) :
    decodeFrom (some p) (b :: rest) =
      some (Char.ofNat (p.value * 64 + n)) :: decodeFrom none rest := by
  simp [decodeFrom, byte, low, high, last]

theorem begins_two {v : Nat} (low : 0x80 ≤ v) (high : v < 0x800) :
    begins (v / 64 % 32 + 0xC0) = some (.inr ⟨v / 64, 1, 0x80, 0xBF⟩) := by
  grind [begins]

theorem begins_three {v : Nat} (high : v < 0x10000) :
    begins (v / 4096 % 16 + 0xE0) = some (.inr ⟨v / 4096, 2,
      if v / 4096 = 0 then 0xA0 else 0x80, if v / 4096 = 0xD then 0x9F else 0xBF⟩) := by
  grind [begins]

theorem begins_four {v : Nat} (high : v < 0x110000) :
    begins (v / 262144 % 8 + 0xF0) = some (.inr ⟨v / 262144, 3,
      if v / 262144 = 0 then 0x90 else 0x80, if v / 262144 = 4 then 0x8F else 0xBF⟩) := by
  grind [begins]

theorem decodeFrom_encodeChar (c : Char) (rest : List UInt8) :
    decodeFrom none (String.utf8EncodeChar c ++ rest) = some c :: decodeFrom none rest := by
  have valid : c.toNat < 0xD800 ∨ 0xDFFF < c.toNat ∧ c.toNat < 0x110000 := c.valid
  have code : c.val.toNat = c.toNat := rfl
  have back : Char.ofNat c.toNat = c := Char.ofNat_toNat c
  unfold String.utf8EncodeChar
  simp only [code]
  generalize c.toNat = v at *
  have second : (UInt8.ofNat (v / 4096 % 64 + 128)).toNat = v / 4096 % 64 + 128 :=
    toNat_byte (by omega)
  have third : (UInt8.ofNat (v / 64 % 64 + 128)).toNat = v / 64 % 64 + 128 :=
    toNat_byte (by omega)
  have last : (UInt8.ofNat (v % 64 + 128)).toNat = v % 64 + 128 := toNat_byte (by omega)
  split
  · have plain : v < 0x80 := by omega
    apply decodeFrom_whole
    rw [toNat_byte (by omega), begins, if_pos plain, back]
  split
  · have begun := begins_two (v := v) (by omega) (by omega)
    rw [← toNat_byte (n := v / 64 % 32 + 192) (by omega)] at begun
    have value : v / 64 * 64 + v % 64 = v := by omega
    simp only [List.cons_append, List.nil_append]
    rw [decodeFrom_first _ begun, decodeFrom_last _ last (by simp) (by simp only; omega) rfl,
      value, back]
  split
  · have begun := begins_three (v := v) (by omega)
    rw [← toNat_byte (n := v / 4096 % 16 + 224) (by omega)] at begun
    have value : (v / 4096 * 64 + v / 64 % 64) * 64 + v % 64 = v := by omega
    have low : (if v / 4096 = 0 then 0xA0 else 0x80) ≤ v / 64 % 64 + 128 := by split <;> omega
    have high : v / 64 % 64 + 128 ≤ (if v / 4096 = 0xD then 0x9F else 0xBF) := by split <;> omega
    simp only [List.cons_append, List.nil_append]
    rw [decodeFrom_first _ begun, decodeFrom_next _ third low high (by simp),
      decodeFrom_last _ last (by simp) (by simp only; omega) rfl, value, back]
  · have begun := begins_four (v := v) (by omega)
    rw [← toNat_byte (n := v / 262144 % 8 + 240) (by omega)] at begun
    have value : ((v / 262144 * 64 + v / 4096 % 64) * 64 + v / 64 % 64) * 64 + v % 64 = v := by
      omega
    have low : (if v / 262144 = 0 then 0x90 else 0x80) ≤ v / 4096 % 64 + 128 := by split <;> omega
    have high : v / 4096 % 64 + 128 ≤ (if v / 262144 = 4 then 0x8F else 0xBF) := by
      split <;> omega
    simp only [List.cons_append, List.nil_append]
    rw [decodeFrom_first _ begun, decodeFrom_next _ second low high (by simp),
      decodeFrom_next _ third (by simp) (by simp only; omega) (by simp),
      decodeFrom_last _ last (by simp) (by simp only; omega) rfl, value, back]

theorem decodeFrom_encode (cs : List Char) :
    decodeFrom none (cs.flatMap String.utf8EncodeChar) = cs.map some := by
  induction cs with
  | nil => rfl
  | cons c rest ih => rw [List.flatMap_cons, decodeFrom_encodeChar, ih, List.map_cons]

theorem decode_encode (s : String) : decode? (encode s) = some s := by
  have whole : ∀ cs : List Char, (cs.map some).mapM id = some cs := by
    intro cs
    induction cs with
    | nil => rfl
    | cons c rest ih => simp [ih]
  simp only [decode?, encode, decodeFrom_encode, whole, Option.map_some, String.ofList_toList]

end Text.Utf8

namespace Json.Reader

open Number (hexValue?)

theorem hexValue_hexDigit : ∀ n < 16, hexValue? (hexDigit n) = some n := by decide +kernel

theorem hex4_control {n : Nat} (control : n < 0x20) :
    hex4? '0' '0' (hexDigit (n / 16)) (hexDigit (n % 16)) = some n := by
  have zero : hexValue? '0' = some 0 := by decide +kernel
  have high := hexValue_hexDigit (n / 16) (by omega)
  have low := hexValue_hexDigit (n % 16) (by omega)
  simp [hex4?, zero, high, low]
  omega

/-- The unit stands for the character, whatever follows it. -/
def Unit16.StandsFor (u : Unit16) (c : Char) : Prop :=
  ∀ us, chars? (u :: us) = (chars? us).map (c :: ·)

theorem standsFor_char (c : Char) : (Unit16.char c).StandsFor c := fun _ => by rw [chars?]

theorem standsFor_escaped {c : Char} (control : c.toNat < 0x20) :
    (Unit16.escaped c.toNat).StandsFor c := by
  have noLead : isLead c.toNat = false := by simp [isLead]; omega
  have noTrail : isTrail c.toNat = false := by simp [isTrail]; omega
  intro us
  cases us with
  | nil => simp [chars?, noLead, noTrail, Char.ofNat_toNat]
  | cons u us =>
    cases u with
    | char d => simp [chars?, noLead, noTrail, Char.ofNat_toNat]
    | escaped m => rw [chars?]; simp [noLead, noTrail, Char.ofNat_toNat]

theorem units_printable {c : Char} (printable : ¬ c.toNat < 0x20) (noQuote : c ≠ '"')
    (noEscape : c ≠ '\\') (rest : List Char) :
    units? (c :: rest) = (units? rest).map fun p => (.char c :: p.1, p.2) := by
  rw [units?.eq_def]
  split
  · next empty => cases empty
  · next same => cases same; contradiction
  · next same => cases same; contradiction
  · next same => cases same; contradiction
  · next same =>
    cases same
    simp [printable, noEscape]

theorem units_escapeChar (c : Char) : ∃ u : Unit16, u.StandsFor c ∧ ∀ rest,
    units? (escapeChar c ++ rest) = (units? rest).map fun p => (u :: p.1, p.2) := by
  unfold escapeChar
  split
  iterate 7
    · refine ⟨_, standsFor_char _, fun rest => ?_⟩
      simp only [List.cons_append, List.nil_append, units?]
      cases units? rest <;> rfl
  · split
    · next control =>
      refine ⟨_, standsFor_escaped control, fun rest => ?_⟩
      simp only [List.cons_append, List.nil_append, units?, hex4_control control]
      cases units? rest <;> rfl
    · next noQuote noEscape _ _ _ _ _ printable =>
      exact ⟨_, standsFor_char c, units_printable printable noQuote noEscape⟩

theorem units_quote (cs rest : List Char) : ∃ us, chars? us = some cs ∧
    units? (cs.flatMap escapeChar ++ '"' :: rest) = some (us, rest) := by
  induction cs with
  | nil => exact ⟨[], rfl, rfl⟩
  | cons c cs ih =>
    obtain ⟨us, made, read⟩ := ih
    obtain ⟨u, stands, first⟩ := units_escapeChar c
    refine ⟨u :: us, ?_, ?_⟩
    · rw [stands, made, Option.map_some]
    · rw [List.flatMap_cons, List.append_assoc, first, read, Option.map_some]

theorem quote_toList (s : String) :
    (quote s).toList = '"' :: (s.toList.flatMap escapeChar ++ ['"']) := by
  simp [quote]

theorem string_quote (s : String) (rest : List Char) :
    string? (s.toList.flatMap escapeChar ++ '"' :: rest) = some (some s, rest) := by
  obtain ⟨us, made, read⟩ := units_quote s.toList rest
  simp [string?, read, made, String.ofList_toList]

theorem skipBlanks_append {blanks : List Char} (blank : skipBlanks blanks = []) (cs : List Char) :
    skipBlanks (blanks ++ cs) = skipBlanks cs := by
  rw [skipBlanks, List.dropWhile_eq_nil_iff] at blank
  exact List.dropWhile_append_of_pos blank

theorem skipBlanks_quote (s : String) (rest : List Char) :
    skipBlanks ((quote s).toList ++ rest) = (quote s).toList ++ rest := by
  simp [skipBlanks, quote_toList]

theorem skipBlanks_comma (cs : List Char) : skipBlanks (',' :: cs) = ',' :: cs := by
  simp [skipBlanks]

theorem value_quote (fuel : Nat) (s : String) (rest : List Char) :
    value? (fuel + 1) ((quote s).toList ++ rest) = some (.string (some s), rest) := by
  rw [value?, skipBlanks_quote]
  simp [quote_toList, string_quote]

theorem value_blank (fuel : Nat) (cs : List Char) : value? fuel (' ' :: cs) = value? fuel cs := by
  cases fuel with
  | zero => rfl
  | succ fuel => simp [value?, skipBlanks]

theorem fields_skipBlanks (fuel : Nat) (cs : List Char) :
    fields? fuel (skipBlanks cs) = fields? fuel cs := by
  cases fuel with
  | zero => rfl
  | succ fuel =>
    have again : skipBlanks (skipBlanks cs) = skipBlanks cs := List.dropWhile_idempotent _ _
    rw [fields?, fields?, again]

theorem value_object {fuel : Nat} {cs first rest : List Char} {fields : List (Option String × Json)}
    (opened : skipBlanks cs = '"' :: first) (read : fields? fuel cs = some (fields, rest)) :
    value? (fuel + 1) ('{' :: cs) = some (.object fields, rest) := by
  rw [← fields_skipBlanks, opened] at read
  have brace : skipBlanks ('{' :: cs) = '{' :: cs := by simp [skipBlanks]
  rw [value?, brace]
  simp [opened, read]

section Fields

/-- A field of an object, with blanks in front of its name, up to the end of the text. -/
def fieldChars (blanks : List Char) (name : String) (value : List Char) : List Char :=
  blanks ++ ((quote name).toList ++ ':' :: ' ' :: value)

variable {fuel : Nat} {blanks cs rest rest' : List Char} {value : Json}
  (blank : skipBlanks blanks = []) (name : String)
  (read : value? fuel cs = some (value, rest))

include blank

theorem skipBlanks_fieldChars : ∃ first, skipBlanks (fieldChars blanks name cs) = '"' :: first := by
  rw [fieldChars, skipBlanks_append blank, skipBlanks_quote, quote_toList]
  exact ⟨_, rfl⟩

include read

theorem fields_last (closed : skipBlanks rest = '}' :: rest') :
    fields? (fuel + 1) (fieldChars blanks name cs) = some ([(some name, value)], rest') := by
  have colon : ∀ cs, skipBlanks (':' :: cs) = ':' :: cs := by simp [skipBlanks]
  rw [fieldChars, fields?, skipBlanks_append blank, skipBlanks_quote]
  simp [quote_toList, string_quote, colon, value_blank, read, closed]

theorem fields_more {fields : List (Option String × Json)} {rest'' : List Char}
    (comma : skipBlanks rest = ',' :: rest') (more : fields? fuel rest' = some (fields, rest'')) :
    fields? (fuel + 1) (fieldChars blanks name cs) =
      some ((some name, value) :: fields, rest'') := by
  have colon : ∀ cs, skipBlanks (':' :: cs) = ':' :: cs := by simp [skipBlanks]
  rw [fieldChars, fields?, skipBlanks_append blank, skipBlanks_quote]
  simp [quote_toList, string_quote, colon, value_blank, read, comma, more]

end Fields

end Json.Reader

namespace Dict

variable {α : Type}

/-- The names of the entries ascend, so that there is one for each name. -/
def Ascends (entries : List (String × α)) : Prop := entries.Pairwise fun a b => a.1 < b.1

theorem place_last {entries : List (String × α)} {name : String} {value : α}
    (before : ∀ e ∈ entries, e.1 < name) :
    place name value entries = entries ++ [(name, value)] := by
  induction entries with
  | nil => rfl
  | cons e rest ih =>
    have first := before e List.mem_cons_self
    have different : e.1 ≠ name := ne_of_lt first
    have notGreater : ¬ name < e.1 := lt_asymm first
    simp [place, different, notGreater, ih fun e' later => before e' (List.mem_cons_of_mem _ later)]

theorem mem_place {entries : List (String × α)} {name : String} {value : α} {e : String × α}
    (among : e ∈ place name value entries) : e = (name, value) ∨ e ∈ entries := by
  induction entries with
  | nil => simpa [place] using among
  | cons first rest ih =>
    simp only [place] at among
    grind

theorem ascends_place {entries : List (String × α)} (ascends : Ascends entries) (name : String)
    (value : α) : Ascends (place name value entries) := by
  induction entries with
  | nil => simp [place, Ascends]
  | cons e rest ih =>
    obtain ⟨first, later⟩ := List.pairwise_cons.mp ascends
    simp only [place]
    split
    · next same => exact List.pairwise_cons.mpr ⟨fun e' among => same ▸ first e' among, later⟩
    · split
      · next less =>
        refine List.pairwise_cons.mpr ⟨?_, ascends⟩
        intro e' among
        rcases List.mem_cons.mp among with rfl | among
        · exact less
        · exact lt_trans less (first e' among)
      · next different notLess =>
        refine List.pairwise_cons.mpr ⟨?_, ih later⟩
        intro e' among
        rcases mem_place among with rfl | among
        · exact lt_of_le_of_ne (not_lt.mp notLess) different
        · exact first e' among

theorem ascends_ofList (entries : List (String × α)) : Ascends (ofList entries).entries := by
  have placed : ∀ (es : List (String × α)) (d : Dict α), Ascends d.entries →
      Ascends (es.foldl (fun d e => d.insert e.1 e.2) d).entries := by
    intro es
    induction es with
    | nil => exact fun d ascends => ascends
    | cons e rest ih => exact fun d ascends => ih _ (ascends_place ascends e.1 e.2)
  exact placed entries .empty List.Pairwise.nil

theorem ofList_entries {entries : List (String × α)} (ascends : Ascends entries) :
    ofList entries = ⟨entries⟩ := by
  have placed : ∀ before after : List (String × α), Ascends (before ++ after) →
      after.foldl (fun d e => d.insert e.1 e.2) ⟨before⟩ = (⟨before ++ after⟩ : Dict α) := by
    intro before after
    induction after generalizing before with
    | nil => simp
    | cons e rest ih =>
      intro ascends
      have least : ∀ e' ∈ before, e'.1 < e.1 := by
        intro e' among
        exact (List.pairwise_append.mp ascends).2.2 e' among e List.mem_cons_self
      have shifted : before ++ e :: rest = (before ++ [e]) ++ rest := by simp
      rw [List.foldl_cons, insert, place_last least, shifted]
      exact ih (before ++ [e]) (shifted ▸ ascends)
  exact placed [] entries ascends

end Dict

namespace GlobalsFile

open Json Json.Reader

def field (entry : String × String) : Option String × Json := (some entry.1, .string (some entry.2))

theorem renderVariable_toList (entry : String × String) :
    (renderVariable entry).toList = fieldChars "\n    ".toList entry.1 (quote entry.2).toList := by
  simp [renderVariable, fieldChars]

def listChars (entries : List (String × String)) : List Char :=
  (",".intercalate (entries.map renderVariable)).toList

theorem listChars_one (entry : String × String) (rest : List Char) :
    listChars [entry] ++ rest =
      fieldChars "\n    ".toList entry.1 ((quote entry.2).toList ++ rest) := by
  simp [listChars, renderVariable_toList, fieldChars]

theorem listChars_cons (entry next : String × String) (entries : List (String × String))
    (rest : List Char) :
    listChars (entry :: next :: entries) ++ rest = fieldChars "\n    ".toList entry.1
      ((quote entry.2).toList ++ ',' :: (listChars (next :: entries) ++ rest)) := by
  simp [listChars, renderVariable_toList, fieldChars]

theorem length_le_listChars (entries : List (String × String)) :
    entries.length ≤ (listChars entries).length := by
  induction entries with
  | nil => simp
  | cons entry entries ih =>
    cases entries with
    | nil =>
      have one := congrArg List.length (listChars_one entry [])
      simp [fieldChars] at one ⊢
      omega
    | cons next entries =>
      have more := congrArg List.length (listChars_cons entry next entries [])
      simp [fieldChars] at more ih ⊢
      omega

def closing (rest : List Char) : List Char := '\n' :: ' ' :: ' ' :: '}' :: rest

theorem skipBlanks_closing (rest : List Char) : skipBlanks (closing rest) = '}' :: rest := by
  simp [skipBlanks, closing]

theorem fields_listChars (entry : String × String) (entries : List (String × String)) {fuel : Nat}
    (enough : entries.length + 1 < fuel) (rest : List Char) :
    fields? fuel (listChars (entry :: entries) ++ closing rest) =
      some ((entry :: entries).map field, rest) := by
  have blank : skipBlanks "\n    ".toList = [] := by decide
  induction entries generalizing entry fuel with
  | nil =>
    obtain ⟨fuel, rfl⟩ : ∃ k, fuel = k + 1 + 1 := ⟨fuel - 2, by simp at enough; omega⟩
    rw [listChars_one]
    exact fields_last blank entry.1 (value_quote fuel entry.2 _) (skipBlanks_closing rest)
  | cons next entries ih =>
    obtain ⟨fuel, rfl⟩ : ∃ k, fuel = k + 1 + 1 := ⟨fuel - 2, by simp at enough; omega⟩
    have later := @ih next (fuel + 1) (by simp at enough; omega)
    rw [listChars_cons]
    exact fields_more blank entry.1 (value_quote fuel entry.2 _) (skipBlanks_comma _) later

theorem value_renderVariables (d : Dict String) {fuel : Nat} (enough : d.size + 1 < fuel)
    (rest : List Char) :
    value? fuel ((renderVariables d).toList ++ rest) =
      some (.object (d.entries.map field), rest) := by
  obtain ⟨fuel, rfl⟩ : ∃ k, fuel = k + 1 := ⟨fuel - 1, by omega⟩
  obtain ⟨entries⟩ := d
  cases entries with
  | nil => simp [renderVariables, Dict.isEmpty, value?, skipBlanks]
  | cons entry entries =>
    have text : (renderVariables ⟨entry :: entries⟩).toList ++ rest =
        '{' :: (listChars (entry :: entries) ++ closing rest) := by
      simp [renderVariables, Dict.isEmpty, listChars, closing]
    have opened : ∃ first, skipBlanks (listChars (entry :: entries) ++ closing rest) =
        '"' :: first := by
      cases entries with
      | nil => rw [listChars_one]; exact skipBlanks_fieldChars (by decide) entry.1
      | cons => rw [listChars_cons]; exact skipBlanks_fieldChars (by decide) entry.1
    obtain ⟨first, opened⟩ := opened
    have few : entries.length + 1 < fuel := by simp [Dict.size] at enough; omega
    rw [text, value_object opened (fields_listChars entry entries few rest)]

theorem size_le_renderVariables (d : Dict String) :
    d.size ≤ (renderVariables d).toList.length := by
  have listed := length_le_listChars d.entries
  unfold renderVariables
  split
  · next empty => simp_all [Dict.isEmpty, Dict.size]
  · simp [Dict.size, listChars] at listed ⊢
    omega

theorem render_toList (d : Dict String) :
    (render d).toList = '{' :: fieldChars "\n  ".toList "schemaVersion"
      ((quote schema).toList ++ ',' :: fieldChars "\n  ".toList "variables"
        ((renderVariables d).toList ++ ['\n', '}'])) := by
  have opening : "\x7b\n  \"schemaVersion\": ".toList =
      '{' :: ("\n  ".toList ++ ((quote "schemaVersion").toList ++ [':', ' '])) := by decide +kernel
  have between : ",\n  \"variables\": ".toList =
      ',' :: ("\n  ".toList ++ ((quote "variables").toList ++ [':', ' '])) := by decide +kernel
  have ending : "\n\x7d".toList = ['\n', '}'] := by decide +kernel
  unfold render fieldChars
  simp only [String.toList_append, opening, between, ending, List.append_assoc,
    List.cons_append, List.nil_append]

theorem read_render (d : Dict String) :
    read? (render d) = some (.object [(some "schemaVersion", .string (some schema)),
      (some "variables", .object (d.entries.map field))]) := by
  have blank : skipBlanks "\n  ".toList = [] := by decide
  have text := render_toList d
  have long : d.size + 10 ≤ (render d).toList.length := by
    have inside := size_le_renderVariables d
    rw [text]
    simp [fieldChars]
    omega
  -- The fuel is the length of the text twice, and each variable takes one character at least.
  obtain ⟨fuel, plenty, enough⟩ :
      ∃ k, 2 * (render d).toList.length + 2 = k + 1 + 1 + 1 ∧ d.size + 1 < k :=
    ⟨2 * (render d).toList.length - 1, by omega, by omega⟩
  have last := fields_last blank "variables" (value_renderVariables d enough ['\n', '}'])
    (show _ = '}' :: [] by decide)
  have both := fields_more blank "schemaVersion" (value_quote fuel schema _)
    (skipBlanks_comma _) last
  obtain ⟨first, opened⟩ := skipBlanks_fieldChars blank "schemaVersion"
  simp only [read?, plenty]
  rw [text, value_object opened both]
  rfl

theorem toTexts_fields (entries : List (String × String)) :
    (Json.object (entries.map field)).toTexts? = some entries := by
  have each : ∀ es : List (String × String), (es.map field).mapM (fun f =>
      (do return (← f.1, ← f.2.toText?) : Option (String × String))) = some es := by
    intro es
    induction es with
    | nil => rfl
    | cons e rest ih => simp [field, Json.toText?] at ih ⊢; simp [ih]
  exact each entries

theorem parse_render {d : Dict String} (ascends : Dict.Ascends d.entries) :
    parse? (render d) = some (schema, d) := by
  have values : Dict.ofList d.entries = d := Dict.ofList_entries ascends
  simp [parse?, read_render, fieldNames, Json.record?, Json.toText?, toTexts_fields, values]

end GlobalsFile

end Questline
