import Libsqli.Data.Scan
import Libsqli.Data.Span
import Mathlib.Data.List.Infix

namespace Libsqli.Retry

open Libsqli.Data.Ctype
open Libsqli.Data.Scan (skipSpaces)
open Libsqli.Data.Span

/-! The two functions called `sqli_sql_is_read_only`. -/

def lineOpening : List UInt8 := octets "--"

def blockOpening : List UInt8 := octets "/*"

def star : UInt8 := 42

def readOnlyWords : List (List UInt8) :=
  [octets "SELECT", octets "WITH", octets "SHOW", octets "DESCRIBE",
    octets "EXPLAIN", octets "VALUES"]

/-- The loop that fills `tok`. -/
def firstWord (text : List UInt8) : List UInt8 :=
  ((text.takeWhile isAlpha).take 15).map toUpper

/-- The decision once the start of the statement is found. -/
def beginsReadOnly (text : List UInt8) : Bool :=
  if firstWord text = [] then false else readOnlyWords.contains (firstWord text)

/-- Up to the end of a block comment; it may never end. -/
def skipBlock : List UInt8 → List UInt8
  | [] => []
  | byte :: rest =>
      if byte = star ∧ rest.head? = some slash then rest.tail
      else skipBlock rest

def skipLine (text : List UInt8) : List UInt8 := text.dropWhile (· ≠ newline)

theorem length_skipBlock_le (text : List UInt8) :
    (skipBlock text).length ≤ text.length := by
  induction text with
  | nil => exact Nat.le_refl _
  | cons byte rest ih =>
      rw [skipBlock]
      split
      · rw [List.length_tail, List.length_cons]
        omega
      · rw [List.length_cons]
        omega

theorem length_skipLine_le (text : List UInt8) :
    (skipLine text).length ≤ text.length :=
  (List.dropWhile_suffix _).length_le

theorem length_skipSpaces_le (text : List UInt8) :
    (skipSpaces text).length ≤ text.length :=
  (List.dropWhile_suffix _).length_le

/-- The loop of the scanner in `sqli_query.c`. -/
def skipLeading (text : List UInt8) : List UInt8 :=
  if _hline : lineOpening <+: skipSpaces text then
    skipLeading (skipLine ((skipSpaces text).drop 2))
  else if _hblock : blockOpening <+: skipSpaces text then
    skipLeading (skipBlock ((skipSpaces text).drop 2))
  else skipSpaces text
termination_by text.length
decreasing_by
  all_goals
    have hspaces := length_skipSpaces_le text
    have hskipped : ((skipSpaces text).drop 2).length =
        (skipSpaces text).length - 2 := List.length_drop
  · have htwo : 2 ≤ (skipSpaces text).length := _hline.length_le
    have hrest := length_skipLine_le ((skipSpaces text).drop 2)
    omega
  · have htwo : 2 ≤ (skipSpaces text).length := _hblock.length_le
    have hrest := length_skipBlock_le ((skipSpaces text).drop 2)
    omega

/-- `sqli_sql_is_read_only` of `sqli_query.c` -/
def querySqlIsReadOnly (sql : Option (List UInt8)) : Bool :=
  match sql with
  | none => false
  | some text => beginsReadOnly (skipLeading text)

/-- `sqli_sql_is_read_only` of `sqli_prepare.c` -/
def prepareSqlIsReadOnly (sql : Option (List UInt8)) : Bool :=
  match sql with
  | none => false
  | some text => beginsReadOnly (skipSpaces text)

/-! What stands in front of a statement. -/

def blockClosing : List UInt8 := [star, slash]

/-- The text starts with the statement itself. -/
structure Starts (text : List UInt8) : Prop where
  space : Ends isSpace text
  line : ¬ lineOpening <+: text
  block : ¬ blockOpening <+: text

/-- White space and comments, ended or not, stand in front of the rest. -/
inductive Skipped : List UInt8 → List UInt8 → Prop
  | space (hspace : isSpace byte = true) (hrest : Skipped text rest) :
      Skipped (byte :: text) rest
  | line (hbody : newline ∉ body) (hrest : Skipped text rest) :
      Skipped (lineOpening ++ (body ++ newline :: text)) rest
  | lastLine (hbody : newline ∉ body) : Skipped (lineOpening ++ body) []
  | block (hbody : ¬ blockClosing <:+: body ++ [star])
      (hrest : Skipped text rest) :
      Skipped (blockOpening ++ (body ++ (blockClosing ++ text))) rest
  | lastBlock (hbody : ¬ blockClosing <:+: body) :
      Skipped (blockOpening ++ body) []
  | stop (hstarts : Starts text) : Skipped text text

variable {text rest body : List UInt8} {byte : UInt8}

theorem skipSpaces_of_ends (hends : Ends isSpace text) :
    skipSpaces text = text := by
  have hall : ∀ value ∈ ([] : List UInt8), isSpace value = true := by
    intro value hmem
    cases hmem
  exact dropWhile_exact hall hends

theorem skipLeading_space (hspace : isSpace byte = true)
    (text : List UInt8) : skipLeading (byte :: text) = skipLeading text := by
  have hsame : skipSpaces (byte :: text) = skipSpaces text :=
    List.dropWhile_cons_of_pos hspace
  rw [skipLeading, skipLeading.eq_def text, hsame]

theorem skipLeading_line (body : List UInt8) :
    skipLeading (lineOpening ++ body) = skipLeading (skipLine body) := by
  have hspaces : skipSpaces (lineOpening ++ body) = lineOpening ++ body := rfl
  have hdrop : (lineOpening ++ body).drop 2 = body := rfl
  rw [skipLeading, hspaces, dif_pos (List.prefix_append _ _), hdrop]

theorem skipLeading_block (body : List UInt8) :
    skipLeading (blockOpening ++ body) = skipLeading (skipBlock body) := by
  have hspaces : skipSpaces (blockOpening ++ body) = blockOpening ++ body := rfl
  have hdrop : (blockOpening ++ body).drop 2 = body := rfl
  have hline : ¬ lineOpening <+: blockOpening ++ body := fun hprefix => by
    obtain ⟨tail, htail⟩ := hprefix
    exact absurd (List.cons.inj htail).1 (by decide)
  rw [skipLeading, hspaces, dif_neg hline, dif_pos (List.prefix_append _ _),
    hdrop]

theorem skipLeading_starts (hstarts : Starts text) :
    skipLeading text = text := by
  rw [skipLeading, skipSpaces_of_ends hstarts.space, dif_neg hstarts.line,
    dif_neg hstarts.block]

theorem starts_nil : Starts [] where
  space := ends_nil
  line := fun hprefix => absurd hprefix.length_le (by decide)
  block := fun hprefix => absurd hprefix.length_le (by decide)

theorem not_newline (hbody : newline ∉ body) :
    ∀ value ∈ body, decide (value ≠ newline) = true := by
  intro value hmem
  exact decide_eq_true fun h => hbody (h ▸ hmem)

theorem skipLine_line (hbody : newline ∉ body) (text : List UInt8) :
    skipLine (body ++ newline :: text) = newline :: text :=
  dropWhile_exact (not_newline hbody) (ends_cons rfl)

theorem skipLine_last (hbody : newline ∉ body) : skipLine body = [] :=
  dropWhile_all (not_newline hbody)

/-! Where a block comment ends. -/

theorem closing_infix_cons {byte : UInt8} :
    blockClosing <:+: byte :: text ↔
      (byte = star ∧ text.head? = some slash) ∨ blockClosing <:+: text := by
  rw [List.infix_cons_iff, blockClosing, List.cons_prefix_cons]
  constructor
  · rintro (⟨rfl, hslash⟩ | hinfix)
    · obtain ⟨tail, rfl⟩ := hslash
      exact .inl ⟨rfl, rfl⟩
    · exact .inr hinfix
  · rintro (⟨rfl, hslash⟩ | hinfix)
    · cases text with
      | nil => cases hslash
      | cons other text =>
          cases hslash
          exact .inl ⟨rfl, List.cons_prefix_cons.mpr ⟨rfl, List.nil_prefix⟩⟩
    · exact .inr hinfix

theorem skipBlock_last (hbody : ¬ blockClosing <:+: body) :
    skipBlock body = [] := by
  induction body with
  | nil => rfl
  | cons byte body ih =>
      rw [closing_infix_cons, not_or] at hbody
      rw [skipBlock, if_neg hbody.1]
      exact ih hbody.2

theorem skipBlock_block (hbody : ¬ blockClosing <:+: body ++ [star])
    (text : List UInt8) :
    skipBlock (body ++ (blockClosing ++ text)) = text := by
  induction body with
  | nil => rfl
  | cons byte body ih =>
      rw [List.cons_append, closing_infix_cons, not_or] at hbody
      have hhead : ¬ (byte = star ∧
          (body ++ (blockClosing ++ text)).head? = some slash) := by
        rintro ⟨hstar, hslash⟩
        refine hbody.1 ⟨hstar, ?_⟩
        cases body with
        | nil => exact absurd (Option.some.inj hslash) (by decide)
        | cons other body => exact hslash
      rw [List.cons_append, skipBlock, if_neg hhead]
      exact ih hbody.2

theorem block_divides (text : List UInt8) :
    (∃ body, text = body ++ (blockClosing ++ skipBlock text) ∧
        ¬ blockClosing <:+: body ++ [star]) ∨
      (skipBlock text = [] ∧ ¬ blockClosing <:+: text) := by
  induction text with
  | nil => exact .inr ⟨rfl, by decide⟩
  | cons byte text ih =>
      rw [skipBlock]
      by_cases hends : byte = star ∧ text.head? = some slash
      · obtain ⟨rfl, hslash⟩ := hends
        cases text with
        | nil => cases hslash
        | cons other text =>
            cases hslash
            refine .inl ⟨[], ?_, by decide⟩
            rw [if_pos ⟨rfl, rfl⟩]
            rfl
      · rw [if_neg hends]
        rcases ih with ⟨body, htext, hbody⟩ | ⟨hnil, hopen⟩
        · refine .inl ⟨byte :: body, by rw [List.cons_append, ← htext], ?_⟩
          rw [List.cons_append, closing_infix_cons, not_or]
          refine ⟨?_, hbody⟩
          rintro ⟨hstar, hslash⟩
          refine hends ⟨hstar, ?_⟩
          rw [htext]
          cases body with
          | nil => exact absurd hslash (by decide)
          | cons other body => exact hslash
        · exact .inr ⟨hnil, by
            rw [closing_infix_cons, not_or]
            exact ⟨hends, hopen⟩⟩

/-! The scanner leaves what the relation says. -/

theorem Skipped.eq_skipLeading (hskipped : Skipped text rest) :
    rest = skipLeading text := by
  induction hskipped with
  | space hspace _ ih => rw [skipLeading_space hspace, ih]
  | line hbody _ ih =>
      rw [skipLeading_line, skipLine_line hbody,
        skipLeading_space (by decide : isSpace newline = true), ih]
  | lastLine hbody =>
      rw [skipLeading_line, skipLine_last hbody, skipLeading_starts starts_nil]
  | block hbody _ ih => rw [skipLeading_block, skipBlock_block hbody, ih]
  | lastBlock hbody =>
      rw [skipLeading_block, skipBlock_last hbody,
        skipLeading_starts starts_nil]
  | stop hstarts => rw [skipLeading_starts hstarts]

theorem Skipped.of_skipSpaces (hskipped : Skipped (skipSpaces text) rest) :
    Skipped text rest := by
  induction text with
  | nil => exact hskipped
  | cons byte text ih =>
      cases hspace : isSpace byte with
      | true =>
          refine .space hspace (ih ?_)
          rwa [skipSpaces, List.dropWhile_cons_of_pos hspace] at hskipped
      | false =>
          rwa [skipSpaces_of_ends (ends_cons hspace)] at hskipped

theorem skipped_line (text : List UInt8) (hrest : Skipped (skipLine text) rest) :
    Skipped (lineOpening ++ text) rest := by
  have hdivided : text.takeWhile (· ≠ newline) ++ skipLine text = text :=
    List.takeWhile_append_dropWhile
  have hbody : newline ∉ text.takeWhile (· ≠ newline) := fun hmem => by
    have hother := List.mem_takeWhile_imp hmem
    simp at hother
  cases hline : skipLine text with
  | nil =>
      rw [hline] at hrest hdivided
      rw [List.append_nil] at hdivided
      rw [hdivided] at hbody
      rw [hrest.eq_skipLeading, skipLeading_starts starts_nil]
      exact .lastLine hbody
  | cons byte behind =>
      have hends := ends_dropWhile (fun value => decide (value ≠ newline)) text
      have hbyte : byte = newline := by
        have hnot := hends byte (by rw [← skipLine, hline]; rfl)
        simpa using hnot
      subst hbyte
      rw [hline] at hrest hdivided
      rw [← hdivided]
      have hspace : isSpace newline = true := by decide
      have hbehind : rest = skipLeading behind := by
        rw [hrest.eq_skipLeading, skipLeading_space hspace]
      cases hrest with
      | space _ hrest => exact .line hbody hrest
      | stop hstarts =>
          have hclear := hstarts.space newline rfl
          rw [hspace] at hclear
          cases hclear

theorem skipped_block (text : List UInt8)
    (hrest : Skipped (skipBlock text) rest) :
    Skipped (blockOpening ++ text) rest := by
  rcases block_divides text with ⟨body, htext, hbody⟩ | ⟨hnil, hopen⟩
  · rw [htext]
    exact .block hbody hrest
  · rw [hnil] at hrest
    rw [hrest.eq_skipLeading, skipLeading_starts starts_nil]
    exact .lastBlock hopen

theorem skipped_skipLeading (text : List UInt8) :
    Skipped text (skipLeading text) := by
  fun_induction skipLeading text with
  | case1 text hline ih =>
      obtain ⟨body, hbody⟩ := hline
      refine .of_skipSpaces ?_
      rw [← hbody] at ih ⊢
      exact skipped_line body ih
  | case2 text hline hblock ih =>
      obtain ⟨body, hbody⟩ := hblock
      refine .of_skipSpaces ?_
      rw [← hbody] at ih ⊢
      exact skipped_block body ih
  | case3 text hline hblock =>
      exact .of_skipSpaces (.stop ⟨ends_dropWhile _ _, hline, hblock⟩)

theorem skipped_iff : Skipped text rest ↔ rest = skipLeading text :=
  ⟨Skipped.eq_skipLeading, fun h => h ▸ skipped_skipLeading text⟩

/-! Where the two scanners agree. -/

/-- Behind its white space the text starts with a comment. -/
def OpensComment (text : List UInt8) : Prop :=
  lineOpening <+: skipSpaces text ∨ blockOpening <+: skipSpaces text

instance (text : List UInt8) : Decidable (OpensComment text) :=
  inferInstanceAs (Decidable (_ ∨ _))

theorem beginsReadOnly_comment (hopens : OpensComment text) :
    beginsReadOnly (skipSpaces text) = false := by
  have hword : firstWord (skipSpaces text) = [] := by
    rcases hopens with ⟨body, hbody⟩ | ⟨body, hbody⟩ <;> rw [← hbody] <;> rfl
  rw [beginsReadOnly, if_pos hword]

theorem skipLeading_plain (hplain : ¬ OpensComment text) :
    skipLeading text = skipSpaces text := by
  rw [OpensComment, not_or] at hplain
  rw [skipLeading, dif_neg hplain.1, dif_neg hplain.2]

/-- Both scanners decide on what stands behind white space and comments. -/
def ClassifiersAgree (text : List UInt8) : Prop :=
  ∀ rest, Skipped text rest →
    querySqlIsReadOnly (some text) = beginsReadOnly rest ∧
    prepareSqlIsReadOnly (some text) = beginsReadOnly rest

theorem beginsReadOnly_eq_false_iff (text : List UInt8) :
    beginsReadOnly text = false ↔ firstWord text ∉ readOnlyWords := by
  unfold beginsReadOnly
  split
  · next hnone =>
    rw [hnone]
    simp only [true_iff]
    decide
  · rw [← Bool.not_eq_true, List.contains_iff_mem]

theorem classifiersAgree_iff (text : List UInt8) :
    ClassifiersAgree text ↔
      (OpensComment text → ∀ rest, Skipped text rest →
        firstWord rest ∉ readOnlyWords) := by
  simp only [ClassifiersAgree, skipped_iff, forall_eq,
    ← beginsReadOnly_eq_false_iff]
  change beginsReadOnly (skipLeading text) = beginsReadOnly (skipLeading text) ∧
    beginsReadOnly (skipSpaces text) = beginsReadOnly (skipLeading text) ↔ _
  constructor
  · rintro ⟨-, hprepare⟩ hopens
    rw [← hprepare]
    exact beginsReadOnly_comment hopens
  · intro hclear
    refine ⟨rfl, ?_⟩
    by_cases hopens : OpensComment text
    · rw [hclear hopens, beginsReadOnly_comment hopens]
    · rw [skipLeading_plain hopens]

end Libsqli.Retry
