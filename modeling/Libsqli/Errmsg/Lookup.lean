import Libsqli.Data.Blocks
import Libsqli.Data.Search
import Libsqli.Result.State

namespace Libsqli.Errmsg

open Libsqli.Data.Blocks
open Libsqli.Data.Search

/-! The generated tables. -/

/-- `ifx_code_entry_t` -/
structure CodeEntry where
  code : Int32
  offset : UInt32
  deriving DecidableEq

structure Tables where
  dictBlob : List UInt8
  dictOffsets : List UInt16
  msgBlob : List UInt8
  codeTable : List CodeEntry

/-- `IFX_TIER1_COUNT` -/
def tier1Count : Nat := 127

/-- The text before the NUL; none when there is no NUL in the memory. -/
def cString : List UInt8 → Option (List UInt8)
  | [] => none
  | byte :: rest => if byte = 0 then some [] else (cString rest).map (byte :: ·)

variable (tables : Tables)

/-- `dict_entry` with the loop that measures the entry; none is a read outside
the dictionary. -/
def dictEntry (index : Nat) : Option (List UInt8) :=
  tables.dictOffsets[index]?.bind fun offset =>
    cString (tables.dictBlob.drop offset.toNat)

/-- `find_code` -/
def findCode (code : Int32) : Option CodeEntry :=
  bisect (fun entry : CodeEntry => entry.code.toInt) tables.codeTable
    code.toInt 0 tables.codeTable.length (Nat.le_refl _)

/-! `ifx_errmsg_get`; none is an access outside the tables or the output, or an
overflow. -/

abbrev Outcome := Option (Int × List UInt8)

/-- The copy into the output. -/
def stored (out : List UInt8) (used : Nat) (bytes : List UInt8) :
    Option (List UInt8) :=
  if used + bytes.length ≤ out.length then some (overwritten out used bytes)
  else none

/-- What the loop does with the bytes of one token. -/
def putToken (lit : List UInt8) (used : Nat) (out : List UInt8)
    (next : Nat → List UInt8 → Outcome) : Outcome :=
  if out.length ≤ used + lit.length then some (-2, out)
  else (stored out used lit).bind (next (used + lit.length))

def putEnd (used : Nat) (out : List UInt8) : Outcome :=
  if out.length ≤ used then some (-2, out)
  else (stored out used [0]).map fun out => (toInt32 used, out)

/-- The loop over the message; its first argument is the memory from `p` on. -/
def expandLoop : List UInt8 → Nat → List UInt8 → Outcome
  | [], _, _ => none
  | byte :: rest, used, out =>
      if byte = 0 then putEnd used out
      else if byte = 0x80 then
        match rest with
        | [] => none
        | index :: rest =>
            (dictEntry tables (tier1Count + index.toNat)).bind fun lit =>
              putToken lit used out (expandLoop rest)
      else if 0x81 ≤ byte then
        (dictEntry tables (byte - 0x81).toNat).bind fun lit =>
          putToken lit used out (expandLoop rest)
      else putToken [byte] used out (expandLoop rest)

/-- `ifx_errmsg_get` -/
def errmsgGet (code : Int32) (out : List UInt8) : Outcome :=
  match findCode tables code with
  | none => some (-1, out)
  | some entry =>
      expandLoop tables (tables.msgBlob.drop entry.offset.toNat) 0 out

/-- `-code`; the least number has no negation. -/
def negated (code : Int32) : Option Int32 :=
  if code = Int32.minValue then none else some (-code)

/-- `sqli_error_message_lookup` -/
def errorMessageLookup (code : Int32) (out : List UInt8) : Outcome :=
  (errmsgGet tables code out).bind fun (rc, out) =>
    if rc = -1 ∧ code ≠ 0 then
      (negated code).bind fun code => errmsgGet tables code out
    else some (rc, out)

/-! What the tables are to be. -/

/-- The memory starts with a message that ends in a NUL and expands to the
text. -/
inductive Encodes : List UInt8 → List UInt8 → Prop
  | done : Encodes (0 :: rest) []
  | literal (hbyte : byte ≠ 0) (hsmall : byte < 0x80)
      (hrest : Encodes rest text) : Encodes (byte :: rest) (byte :: text)
  | frequent (hbyte : 0x81 ≤ byte)
      (hentry : dictEntry tables (byte - 0x81).toNat = some word)
      (hrest : Encodes rest text) : Encodes (byte :: rest) (word ++ text)
  | other (hentry : dictEntry tables (tier1Count + index.toNat) = some word)
      (hrest : Encodes rest text) :
      Encodes (0x80 :: index :: rest) (word ++ text)

/-- The tables of a generated catalog. -/
structure Catalog extends Tables where
  sorted : codeTable.Pairwise fun left right =>
    left.code.toInt < right.code.toInt
  messages : ∀ entry ∈ codeTable, ∃ text,
    Encodes toTables (msgBlob.drop entry.offset.toNat) text

variable {tables : Tables}

/-! What a message expands to is determined by the memory. -/

theorem large_ne {byte : UInt8} (hbyte : 0x81 ≤ byte) :
    byte ≠ 0 ∧ byte ≠ 0x80 := by
  have hnat := UInt8.le_iff_toNat_le.mp hbyte
  constructor <;> rintro rfl <;> simp at hnat

theorem small_ne {byte : UInt8} (hbyte : byte < 0x80) :
    byte ≠ 0x80 ∧ ¬ 0x81 ≤ byte := by
  have hnat := UInt8.lt_iff_toNat_lt.mp hbyte
  constructor
  · rintro rfl
    simp at hnat
  · intro hlarge
    have hle := UInt8.le_iff_toNat_le.mp hlarge
    simp at hnat hle
    omega

theorem Encodes.unique {memory left right : List UInt8}
    (hleft : Encodes tables memory left)
    (hright : Encodes tables memory right) : left = right := by
  induction hleft generalizing right with
  | done =>
      cases hright with
      | done => rfl
      | literal hbyte _ _ => exact absurd rfl hbyte
      | frequent hbyte _ _ => exact absurd rfl (large_ne hbyte).1
  | literal hbyte hsmall _ ih =>
      cases hright with
      | done => exact absurd rfl hbyte
      | literal _ _ hrest => rw [ih hrest]
      | frequent hlarge _ _ => exact absurd hlarge (small_ne hsmall).2
      | other _ _ => exact absurd rfl (small_ne hsmall).1
  | frequent hbyte hentry _ ih =>
      cases hright with
      | done => exact absurd rfl (large_ne hbyte).1
      | literal _ hsmall _ => exact absurd hbyte (small_ne hsmall).2
      | frequent _ hother hrest =>
          rw [ih hrest, Option.some.inj (hentry.symm.trans hother)]
      | other _ _ => exact absurd rfl (large_ne hbyte).2
  | other hentry _ ih =>
      cases hright with
      | literal _ hsmall _ => exact absurd rfl (small_ne hsmall).1
      | frequent hbyte _ _ => exact absurd rfl (large_ne hbyte).2
      | other hother hrest =>
          rw [ih hrest, Option.some.inj (hentry.symm.trans hother)]

/-! What a part of the loop does with the output. -/

structure Expands (next : Nat → List UInt8 → Outcome) (text : List UInt8) :
    Prop where
  whole : ∀ used out, used + text.length < out.length →
    next used out = some (toInt32 (used + text.length : Nat),
      overwritten out used (text ++ [0]))
  short : ∀ used out, out.length ≤ used + text.length →
    ∃ left : List UInt8, left.length = out.length ∧
      next used out = some (-2, left)

theorem expands_putEnd : Expands putEnd [] where
  whole := fun used out hfits => by
    rw [List.length_nil, Nat.add_zero] at hfits
    have hroom : used + [(0 : UInt8)].length ≤ out.length := hfits
    rw [putEnd, if_neg (by omega), stored, if_pos hroom]
    rfl
  short := fun used out hlong => ⟨out, rfl, if_pos hlong⟩

theorem Expands.putToken {next : Nat → List UInt8 → Outcome}
    {text : List UInt8} (hnext : Expands next text) (lit : List UInt8) :
    Expands (fun used out => putToken lit used out next) (lit ++ text) where
  whole := fun used out hfits => by
    rw [List.length_append, ← Nat.add_assoc] at hfits
    have hroom : used + lit.length ≤ out.length := by omega
    have hlength : (overwritten out used lit).length = out.length :=
      length_overwritten hroom
    rw [Errmsg.putToken, if_neg (by omega), stored, if_pos hroom,
      Option.bind_some, hnext.whole _ _ (by omega),
      overwritten_overwritten hroom, List.length_append, Nat.add_assoc,
      List.append_assoc]
  short := fun used out hlong => by
    rw [List.length_append, ← Nat.add_assoc] at hlong
    by_cases hfull : out.length ≤ used + lit.length
    · exact ⟨out, rfl, if_pos hfull⟩
    · have hroom : used + lit.length ≤ out.length := by omega
      have hlength : (overwritten out used lit).length = out.length :=
        length_overwritten hroom
      obtain ⟨left, hleft, hshort⟩ := hnext.short (used + lit.length)
        (overwritten out used lit) (by omega)
      refine ⟨left, by omega, ?_⟩
      rw [Errmsg.putToken, if_neg hfull, stored, if_pos hroom,
        Option.bind_some, hshort]

theorem expands_expandLoop {memory text : List UInt8}
    (hencodes : Encodes tables memory text) :
    Expands (expandLoop tables memory) text := by
  induction hencodes with
  | @done rest =>
      have hloop : expandLoop tables (0 :: rest) = putEnd := by
        funext used out
        rw [expandLoop.eq_def]
        exact if_pos rfl
      rw [hloop]
      exact expands_putEnd
  | @literal byte rest text hbyte hsmall hrest ih =>
      have hloop : expandLoop tables (byte :: rest) = fun used out =>
          putToken [byte] used out (expandLoop tables rest) := by
        funext used out
        rw [expandLoop.eq_def]
        dsimp only
        rw [if_neg hbyte, if_neg (small_ne hsmall).1,
          if_neg (small_ne hsmall).2]
      rw [hloop]
      exact ih.putToken [byte]
  | @frequent byte word rest text hbyte hentry hrest ih =>
      have hloop : expandLoop tables (byte :: rest) = fun used out =>
          putToken word used out (expandLoop tables rest) := by
        funext used out
        rw [expandLoop.eq_def]
        dsimp only
        rw [if_neg (large_ne hbyte).1, if_neg (large_ne hbyte).2,
          if_pos hbyte, hentry, Option.bind_some]
      rw [hloop]
      exact ih.putToken word
  | @other word rest text index hentry hrest ih =>
      have hloop : expandLoop tables (0x80 :: index :: rest) =
          fun used out => putToken word used out (expandLoop tables rest) := by
        funext used out
        rw [expandLoop.eq_def]
        dsimp only
        rw [if_neg (by decide), if_pos rfl, hentry, Option.bind_some]
      rw [hloop]
      exact ih.putToken word

/-! The lookup of one code. -/

/-- The catalog has this text for the number. -/
def Says (tables : Tables) (number : Int) (text : List UInt8) : Prop :=
  ∃ entry ∈ tables.codeTable, entry.code.toInt = number ∧
    Encodes tables (tables.msgBlob.drop entry.offset.toNat) text

def Absent (tables : Tables) (number : Int) : Prop :=
  ∀ entry ∈ tables.codeTable, entry.code.toInt ≠ number

/-- What a lookup of the number is to return and to leave in the output. -/
inductive Answers (tables : Tables) (number : Int) (out : List UInt8) :
    Int × List UInt8 → Prop
  | absent (habsent : Absent tables number) :
      Answers tables number out (-1, out)
  | whole (hmeans : Says tables number text) (hfits : text.length < out.length) :
      Answers tables number out
        (text.length, text ++ 0 :: out.drop (text.length + 1))
  | short (hmeans : Says tables number text) (hlong : out.length ≤ text.length)
      (hlength : left.length = out.length) :
      Answers tables number out (-2, left)

theorem Says.not_absent {number : Int} {text : List UInt8}
    (hmeans : Says tables number text) : ¬ Absent tables number := by
  obtain ⟨entry, hmem, hcode, -⟩ := hmeans
  exact fun habsent => habsent entry hmem hcode

variable {catalog : Catalog} {code : Int32} {out text : List UInt8}

theorem findCode_eq_some_iff {entry : CodeEntry} :
    findCode catalog.toTables code = some entry ↔
      entry ∈ catalog.codeTable ∧ entry.code = code := by
  rw [findCode, bisect_eq_some_iff catalog.sorted]
  simp only [Int32.toInt_inj]

theorem findCode_eq_none_iff :
    findCode catalog.toTables code = none ↔
      Absent catalog.toTables code.toInt :=
  bisect_eq_none_iff catalog.sorted

theorem says_or_absent (catalog : Catalog) (number : Int) :
    Absent catalog.toTables number ∨
      ∃ text, Says catalog.toTables number text := by
  by_cases habsent : Absent catalog.toTables number
  · exact .inl habsent
  · obtain ⟨entry, hentry⟩ := not_forall.mp habsent
    obtain ⟨hmem, hcode⟩ := Classical.not_imp.mp hentry
    obtain ⟨text, hencodes⟩ := catalog.messages entry hmem
    exact .inr ⟨text, entry, hmem, not_not.mp hcode, hencodes⟩

theorem says_iff (hmeans : Says catalog.toTables code.toInt text) :
    ∃ entry, findCode catalog.toTables code = some entry ∧
      Encodes catalog.toTables (catalog.msgBlob.drop entry.offset.toNat)
        text := by
  obtain ⟨entry, hmem, hcode, hencodes⟩ := hmeans
  exact ⟨entry, findCode_eq_some_iff.mpr ⟨hmem, Int32.toInt_inj.mp hcode⟩,
    hencodes⟩

theorem Says.unique {other : List UInt8}
    (hmeans : Says catalog.toTables code.toInt text)
    (hother : Says catalog.toTables code.toInt other) : text = other := by
  obtain ⟨entry, hfound, hencodes⟩ := says_iff hmeans
  obtain ⟨entry', hfound', hencodes'⟩ := says_iff hother
  cases Option.some.inj (hfound.symm.trans hfound')
  exact hencodes.unique hencodes'

theorem errmsgGet_absent
    (habsent : Absent catalog.toTables code.toInt) (out : List UInt8) :
    errmsgGet catalog.toTables code out = some (-1, out) := by
  rw [errmsgGet, findCode_eq_none_iff.mpr habsent]

theorem errmsgGet_whole (hmeans : Says catalog.toTables code.toInt text)
    (hfits : text.length < out.length) :
    errmsgGet catalog.toTables code out =
      some (toInt32 text.length, text ++ 0 :: out.drop (text.length + 1)) := by
  obtain ⟨entry, hfound, hencodes⟩ := says_iff hmeans
  have hloop := (expands_expandLoop hencodes).whole 0 out (by omega)
  rw [errmsgGet, hfound]
  dsimp only
  rw [hloop, Nat.zero_add, overwritten, List.take_zero, List.nil_append,
    List.length_append, List.length_singleton, Nat.zero_add,
    List.append_assoc, List.singleton_append]

theorem errmsgGet_short (hmeans : Says catalog.toTables code.toInt text)
    (hlong : out.length ≤ text.length) :
    ∃ left : List UInt8, left.length = out.length ∧
      errmsgGet catalog.toTables code out = some (-2, left) := by
  obtain ⟨entry, hfound, hencodes⟩ := says_iff hmeans
  rw [errmsgGet, hfound]
  exact (expands_expandLoop hencodes).short 0 out (by omega)

theorem toInt32_length_iff (count : Nat) :
    toInt32 count = count ↔ count < 2 ^ 31 := by
  constructor
  · intro hsame
    have hupper := Int.bmod_lt (x := (count : Int)) (by decide : 0 < 2 ^ 32)
    rw [toInt32] at hsame
    rw [hsame] at hupper
    omega
  · intro hlt
    exact toInt32_eq_of_range (by omega) (by unfold int32Max; omega)

/-- The length of the text that goes into the output has to be an `int`. -/
def LengthFits (tables : Tables) (number : Int) (out : List UInt8) : Prop :=
  ∀ text, Says tables number text → text.length < out.length →
    text.length < 2 ^ 31

theorem errmsgGet_answers
    (hlength : LengthFits catalog.toTables code.toInt out) :
    ∃ answer, errmsgGet catalog.toTables code out = some answer ∧
      Answers catalog.toTables code.toInt out answer := by
  rcases says_or_absent catalog code.toInt with habsent | ⟨text, hmeans⟩
  · exact ⟨_, errmsgGet_absent habsent out, .absent habsent⟩
  · by_cases hfits : text.length < out.length
    · have hsame := (toInt32_length_iff text.length).mpr
        (hlength text hmeans hfits)
      refine ⟨_, errmsgGet_whole hmeans hfits, ?_⟩
      rw [hsame]
      exact .whole hmeans hfits
    · obtain ⟨left, hleft, hshort⟩ :=
        errmsgGet_short hmeans (Nat.le_of_not_lt hfits)
      exact ⟨_, hshort, .short hmeans (Nat.le_of_not_lt hfits) hleft⟩

theorem lengthFits_of_answers
    (hget : ∃ answer, errmsgGet catalog.toTables code out = some answer ∧
      Answers catalog.toTables code.toInt out answer) :
    LengthFits catalog.toTables code.toInt out := by
  obtain ⟨answer, hanswer, hanswers⟩ := hget
  intro text hmeans hfits
  rw [errmsgGet_whole hmeans hfits] at hanswer
  obtain ⟨hcount, -⟩ := Prod.mk.inj (Option.some.inj hanswer)
  cases hanswers with
  | absent habsent => exact absurd habsent hmeans.not_absent
  | whole hother _ =>
      cases hmeans.unique hother
      exact (toInt32_length_iff text.length).mp hcount
  | short hother hlong _ =>
      cases hmeans.unique hother
      omega

/-! The lookup with its second try. -/

/-- The number whose message is asked for: the code, or its negation when the
catalog lacks the code. -/
def askedNumber (tables : Tables) (code : Int32) : Int :=
  if ∃ entry ∈ tables.codeTable, entry.code.toInt = code.toInt then code.toInt
  else -code.toInt

theorem askedNumber_absent (habsent : Absent tables code.toInt) :
    askedNumber tables code = -code.toInt :=
  if_neg fun ⟨entry, hmem, hcode⟩ => habsent entry hmem hcode

theorem askedNumber_text (hmeans : Says tables code.toInt text) :
    askedNumber tables code = code.toInt := by
  obtain ⟨entry, hmem, hcode, -⟩ := hmeans
  exact if_pos ⟨entry, hmem, hcode⟩

theorem toInt_negated {other : Int32} (hnegated : negated code = some other) :
    other.toInt = -code.toInt := by
  unfold negated at hnegated
  split at hnegated
  · cases hnegated
  · next hne =>
    cases hnegated
    have hlow := code.le_toInt
    have hhigh := code.toInt_lt
    have hleast : code.toInt ≠ -2 ^ 31 := fun h =>
      hne (Int32.toInt_inj.mp (h.trans Int32.toInt_minValue.symm))
    rw [Int32.toInt_neg]
    exact Int.bmod_eq_of_le (by omega) (by omega)

theorem errorMessageLookup_absent (habsent : Absent catalog.toTables code.toInt)
    (hne : code ≠ 0) :
    errorMessageLookup catalog.toTables code out =
      (negated code).bind fun code => errmsgGet catalog.toTables code out := by
  rw [errorMessageLookup, errmsgGet_absent habsent, Option.bind_some]
  exact if_pos ⟨rfl, hne⟩

theorem errorMessageLookup_present {rc : Int} {left : List UInt8}
    (hget : errmsgGet catalog.toTables code out = some (rc, left))
    (hrc : rc ≠ -1) :
    errorMessageLookup catalog.toTables code out = some (rc, left) := by
  rw [errorMessageLookup, hget, Option.bind_some]
  exact if_neg fun h => hrc h.1

structure LookupCorrect (catalog : Catalog) (code : Int32)
    (out : List UInt8) : Prop where
  found : ∀ entry, findCode catalog.toTables code = some entry ↔
    entry ∈ catalog.codeTable ∧ entry.code = code
  get : ∃ answer, errmsgGet catalog.toTables code out = some answer ∧
    Answers catalog.toTables code.toInt out answer
  lookup : ∃ answer,
    errorMessageLookup catalog.toTables code out = some answer ∧
    Answers catalog.toTables (askedNumber catalog.toTables code) out answer

theorem lookup_answers_present (hmeans : Says catalog.toTables code.toInt text)
    (hlength : LengthFits catalog.toTables code.toInt out) :
    ∃ answer, errorMessageLookup catalog.toTables code out = some answer ∧
      Answers catalog.toTables code.toInt out answer := by
  obtain ⟨answer, hget, hanswers⟩ := errmsgGet_answers hlength
  refine ⟨answer, ?_, hanswers⟩
  cases hanswers with
  | absent habsent => exact absurd habsent hmeans.not_absent
  | whole hother hfits => exact errorMessageLookup_present hget (by omega)
  | short hother hlong hleft => exact errorMessageLookup_present hget (by decide)

theorem lookup_eq_get {other : Int32}
    (habsent : Absent catalog.toTables code.toInt) (hne : code ≠ 0)
    (hnegated : negated code = some other) :
    errorMessageLookup catalog.toTables code out =
      errmsgGet catalog.toTables other out := by
  rw [errorMessageLookup_absent habsent hne, hnegated, Option.bind_some]

theorem negated_of_ne (hne : code ≠ Int32.minValue) :
    ∃ other, negated code = some other ∧ other.toInt = -code.toInt :=
  ⟨-code, if_neg hne, toInt_negated (if_neg hne)⟩

theorem lookup_answers_absent (habsent : Absent catalog.toTables code.toInt)
    (hleast : code ≠ Int32.minValue)
    (hlength : LengthFits catalog.toTables (-code.toInt) out) :
    ∃ answer, errorMessageLookup catalog.toTables code out = some answer ∧
      Answers catalog.toTables (-code.toInt) out answer := by
  by_cases hzero : code = 0
  · subst hzero
    refine ⟨(-1, out), ?_, .absent habsent⟩
    rw [errorMessageLookup, errmsgGet_absent habsent, Option.bind_some]
    exact if_neg fun h => h.2 rfl
  · obtain ⟨other, hnegated, hnumber⟩ := negated_of_ne hleast
    rw [lookup_eq_get habsent hzero hnegated, ← hnumber]
    rw [← hnumber] at hlength
    exact errmsgGet_answers hlength

theorem lookup_least_none (habsent : Absent catalog.toTables code.toInt)
    (hleast : code = Int32.minValue) :
    errorMessageLookup catalog.toTables code out = none := by
  rw [errorMessageLookup_absent habsent (by rw [hleast]; decide)]
  rw [negated, if_pos hleast, Option.bind_none]

theorem lookupCorrect_iff (catalog : Catalog) (code : Int32)
    (out : List UInt8) :
    LookupCorrect catalog code out ↔
      (code = Int32.minValue → ∃ entry ∈ catalog.codeTable,
        entry.code = code) ∧
      LengthFits catalog.toTables (askedNumber catalog.toTables code) out := by
  rcases says_or_absent catalog code.toInt with habsent | ⟨text, hmeans⟩
  · rw [askedNumber_absent habsent]
    constructor
    · rintro ⟨-, -, hlookup⟩
      rw [askedNumber_absent habsent] at hlookup
      have hleast : code ≠ Int32.minValue := fun hleast => by
        obtain ⟨answer, hanswer, -⟩ := hlookup
        rw [lookup_least_none habsent hleast] at hanswer
        cases hanswer
      refine ⟨fun h => absurd h hleast, ?_⟩
      by_cases hzero : code = 0
      · subst hzero
        exact fun text hmeans _ => absurd habsent hmeans.not_absent
      · obtain ⟨other, hnegated, hnumber⟩ := negated_of_ne hleast
        rw [lookup_eq_get habsent hzero hnegated, ← hnumber] at hlookup
        rw [← hnumber]
        exact lengthFits_of_answers hlookup
    · rintro ⟨hleast, hlength⟩
      have hother : code ≠ Int32.minValue := fun h => by
        obtain ⟨entry, hmem, hcode⟩ := hleast h
        exact habsent entry hmem (congrArg Int32.toInt hcode)
      refine ⟨fun entry => findCode_eq_some_iff,
        ⟨_, errmsgGet_absent habsent out, .absent habsent⟩, ?_⟩
      rw [askedNumber_absent habsent]
      exact lookup_answers_absent habsent hother hlength
  · rw [askedNumber_text hmeans]
    constructor
    · rintro ⟨-, hget, -⟩
      obtain ⟨entry, hmem, hcode, -⟩ := hmeans
      exact ⟨fun _ => ⟨entry, hmem, Int32.toInt_inj.mp hcode⟩,
        lengthFits_of_answers hget⟩
    · rintro ⟨-, hlength⟩
      refine ⟨fun entry => findCode_eq_some_iff, errmsgGet_answers hlength, ?_⟩
      rw [askedNumber_text hmeans]
      exact lookup_answers_present hmeans hlength

/-- A catalog with the message "No." for -206. -/
def smallCatalog : Catalog where
  dictBlob := []
  dictOffsets := []
  msgBlob := [78, 111, 46, 0]
  codeTable := [⟨-206, 0⟩]
  sorted := List.pairwise_singleton _ _
  messages := by
    intro entry hmem
    rw [List.mem_singleton.mp hmem]
    exact ⟨[78, 111, 46], .literal (by decide) (by decide)
      (.literal (by decide) (by decide)
        (.literal (by decide) (by decide) .done))⟩

theorem lookup_least_overflows :
    errorMessageLookup smallCatalog.toTables Int32.minValue
        (List.replicate 8 0) = none ∧
      ¬ LookupCorrect smallCatalog Int32.minValue (List.replicate 8 0) := by
  have habsent : Absent smallCatalog.toTables Int32.minValue.toInt := by
    intro entry hmem
    rw [List.mem_singleton.mp hmem]
    decide
  have hnone := @lookup_least_none _ _ (List.replicate 8 0) habsent rfl
  refine ⟨hnone, fun hcorrect => ?_⟩
  obtain ⟨answer, hanswer, -⟩ := hcorrect.lookup
  rw [hnone] at hanswer
  cases hanswer

end Libsqli.Errmsg
