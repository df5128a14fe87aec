import Libsqli.Prepare.Frame

namespace Libsqli.Prepare

open Libsqli.Data.Bytes
open Libsqli.Data.Ctype

/-! An SQL text as the language divides it into tokens. -/

inductive CommentKind
  | line
  | brace
  | block

def CommentKind.opening : CommentKind → List UInt8
  | line => [45, 45]
  | brace => [123]
  | block => [47, 42]

def CommentKind.closing : CommentKind → List UInt8
  | line => [newline]
  | brace => [125]
  | block => [42, 47]

/-- What closes the comment does not occur before its end. -/
structure CommentBody (kind : CommentKind) where
  bytes : List UInt8
  closes_once : ¬ kind.closing <:+: bytes ++ kind.closing.dropLast

structure QuoteMark where
  byte : UInt8
  quotes : byte = singleQuote ∨ byte = doubleQuote

inductive Token
  | quoted (mark : QuoteMark) (body : List UInt8)
  | comment (kind : CommentKind) (body : CommentBody kind)
  | other (byte : UInt8)

/-- A mark inside a quoted string is written twice. -/
def doubled (mark : QuoteMark) (body : List UInt8) : List UInt8 :=
  body.flatMap fun byte =>
    if byte = mark.byte then [mark.byte, mark.byte] else [byte]

/-- The text opens neither a quoted string nor a comment. -/
structure OpensNothing (text : List UInt8) : Prop where
  quote : ∀ mark : QuoteMark, ¬ [mark.byte] <+: text
  comment : ∀ kind : CommentKind, ¬ kind.opening <+: text

inductive Lexed : List Token → List UInt8 → Prop
  | nil : Lexed [] []
  | other (hopens : OpensNothing (byte :: rest)) (hrest : Lexed tokens rest) :
      Lexed (.other byte :: tokens) (byte :: rest)
  | quoted {mark : QuoteMark} (hends : ¬ [mark.byte] <+: rest)
      (hrest : Lexed tokens rest) :
      Lexed (.quoted mark body :: tokens)
        (mark.byte :: doubled mark body ++ mark.byte :: rest)
  | comment {kind : CommentKind} {body : CommentBody kind}
      (hrest : Lexed tokens rest) :
      Lexed (.comment kind body :: tokens)
        (kind.opening ++ body.bytes ++ kind.closing ++ rest)
  | lastLine :
      Lexed [.comment .line body] (CommentKind.line.opening ++ body.bytes)

/-- The parameters a token stands for. -/
def Token.parameters : Token → Nat
  | other byte => if byte = questionMark then 1 else 0
  | _ => 0

/-- The question marks that are part of a quoted string or a comment. -/
def Token.enclosedMarks : Token → Nat
  | quoted _ body => body.count questionMark
  | comment _ body => body.bytes.count questionMark
  | other _ => 0

def parameters (tokens : List Token) : Nat :=
  (tokens.map Token.parameters).sum

def enclosedMarks (tokens : List Token) : Nat :=
  (tokens.map Token.enclosedMarks).sum

theorem QuoteMark.byte_ne_questionMark (mark : QuoteMark) :
    mark.byte ≠ questionMark := by
  rcases mark.quotes with hmark | hmark
  · rw [hmark]
    decide
  · rw [hmark]
    decide

theorem count_doubled (mark : QuoteMark) (body : List UInt8) :
    (doubled mark body).count questionMark = body.count questionMark := by
  have hmark := mark.byte_ne_questionMark
  induction body with
  | nil => rfl
  | cons byte body ih =>
      have hcons : doubled mark (byte :: body) =
          (if byte = mark.byte then [mark.byte, mark.byte] else [byte]) ++
            doubled mark body := by
        simp only [doubled, List.flatMap_cons]
      rw [hcons, List.count_append, ih]
      by_cases hbyte : byte = mark.byte
      · rw [if_pos hbyte, List.count_cons_of_ne hmark,
          List.count_cons_of_ne hmark, List.count_nil, hbyte,
          List.count_cons_of_ne hmark, Nat.zero_add]
      · rw [if_neg hbyte, List.count_cons, List.count_cons, List.count_nil]
        omega

theorem CommentKind.count_delimiters (kind : CommentKind) :
    kind.opening.count questionMark = 0 ∧
      kind.closing.count questionMark = 0 := by
  cases kind with
  | line => decide
  | brace => decide
  | block => decide

theorem Lexed.count (hsql : Lexed tokens sql) :
    sql.count questionMark = parameters tokens + enclosedMarks tokens := by
  induction hsql with
  | nil => rfl
  | @other byte rest tokens hopens hrest ih =>
      simp only [parameters, enclosedMarks, List.map_cons, List.sum_cons,
        Token.parameters, Token.enclosedMarks, List.count_cons, beq_iff_eq]
        at ih ⊢
      omega
  | @quoted rest tokens body mark hends hrest ih =>
      have hmark := mark.byte_ne_questionMark
      rw [List.cons_append, List.count_cons_of_ne hmark, List.count_append,
        count_doubled, List.count_cons_of_ne hmark, ih]
      simp only [parameters, enclosedMarks, List.map_cons, List.sum_cons,
        Token.parameters, Token.enclosedMarks]
      omega
  | @comment tokens rest kind body hrest ih =>
      obtain ⟨hopening, hclosing⟩ := kind.count_delimiters
      rw [List.count_append, List.count_append, List.count_append, hopening,
        hclosing, ih]
      simp only [parameters, enclosedMarks, List.map_cons, List.sum_cons,
        Token.parameters, Token.enclosedMarks]
      omega
  | @lastLine body =>
      rw [List.count_append, (CommentKind.count_delimiters .line).1]
      simp [parameters, enclosedMarks, Token.parameters, Token.enclosedMarks]

/-! What `sqli_prepare` keeps of its own count. -/

/-- `*param_count`, and the fields of the statement object that follow the
count; `params` is the length of the allocated array. -/
structure PreparedParameters where
  reported : Int32
  paramCount : Int32
  paramCap : Int32
  params : Nat

/-- The loop over the text is the one of `sqli_send_prepare`, its counter is
not clamped. -/
def preparedParameters (sql : List UInt8) : PreparedParameters :=
  let nph := countPlaceholders sql
  { reported := nph
    paramCount := nph
    paramCap := if 0 < nph then nph else 0
    params := if 0 < nph then nph.toNatClampNeg else 0 }

/-- Both counts are `count`. -/
structure CountedAs (sql : List UInt8) (count : Nat) : Prop where
  reported : (preparedParameters sql).reported.toInt = count
  kept : (preparedParameters sql).paramCount.toInt = count
  capacity : (preparedParameters sql).paramCap.toInt = count
  allocated : (preparedParameters sql).params = count
  announced : announcedPlaceholders sql = count

/-! The counter over a text of any length. -/

theorem countPlaceholders_eq (sql : List UInt8) :
    countPlaceholders sql = Int32.ofNat (sql.count questionMark) := by
  have hloop : ∀ (sql : List UInt8) (qmarks : Int32),
      sql.foldl (fun qmarks byte =>
        if byte = questionMark then qmarks + 1 else qmarks) qmarks =
        qmarks + Int32.ofNat (sql.count questionMark) := by
    intro sql
    induction sql with
    | nil => simp
    | cons byte sql ih =>
        intro qmarks
        rw [List.foldl_cons, ih, List.count_cons]
        by_cases hbyte : byte = questionMark
        · rw [if_pos hbyte, if_pos (beq_iff_eq.mpr hbyte), Nat.add_comm,
            Int32.ofNat_add]
          simp only [Int32.add_assoc]
          rfl
        · rw [if_neg hbyte, if_neg (by simpa using hbyte), Nat.add_zero]
  rw [countPlaceholders, hloop, Int32.zero_add]

theorem countPlaceholders_toInt (sql : List UInt8) :
    (countPlaceholders sql).toInt =
      Int.bmod (sql.count questionMark) (2 ^ 32) := by
  rw [countPlaceholders_eq, Int32.toInt_ofNat']
  rfl

theorem countPlaceholders_of_small
    (hsmall : sql.count questionMark % 2 ^ 32 ≤ 0xFFFF) :
    (countPlaceholders sql).toInt = (sql.count questionMark % 2 ^ 32 : Nat) ∧
      announcedPlaceholders sql = sql.count questionMark % 2 ^ 32 := by
  have hcount : (countPlaceholders sql).toInt =
      (sql.count questionMark % 2 ^ 32 : Nat) := by
    rw [countPlaceholders_toInt, Int.bmod_def]
    omega
  refine ⟨hcount, ?_⟩
  have hnat := congrArg Int.toNat hcount
  rw [announcedPlaceholders, ← Int32.toNat_toInt, hnat]
  omega

/-- The count can be what it announces only inside two octets. -/
theorem small_of_announced {count : Nat}
    (hcount : (countPlaceholders sql).toInt = count)
    (hannounced : announcedPlaceholders sql = count) :
    sql.count questionMark % 2 ^ 32 = count ∧ count ≤ 0xFFFF := by
  have hle : count ≤ 0xFFFF := by
    rw [← hannounced]
    exact Nat.min_le_right _ _
  rw [countPlaceholders_toInt, Int.bmod_def] at hcount
  constructor
  · omega
  · exact hle

theorem countedAs_iff (sql : List UInt8) (count : Nat) :
    CountedAs sql count ↔
      sql.count questionMark % 2 ^ 32 = count ∧ count ≤ 0xFFFF := by
  constructor
  · intro hcounted
    exact small_of_announced hcounted.reported hcounted.announced
  · rintro ⟨rfl, hsmall⟩
    obtain ⟨hcount, hannounced⟩ := countPlaceholders_of_small hsmall
    have hpositive : 0 < countPlaceholders sql ↔
        0 < sql.count questionMark % 2 ^ 32 := by
      rw [Int32.lt_iff_toInt_lt, hcount, Int32.toInt_zero]
      omega
    refine ⟨hcount, hcount, ?_, ?_, hannounced⟩
    · by_cases hnone : 0 < countPlaceholders sql
      · simp only [preparedParameters, if_pos hnone, hcount]
      · have hzero := mt hpositive.mpr hnone
        simp only [preparedParameters, if_neg hnone, Int32.toInt_zero]
        omega
    · by_cases hnone : 0 < countPlaceholders sql
      · have hnat := congrArg Int.toNat hcount
        simp only [preparedParameters, if_pos hnone, ← Int32.toNat_toInt]
        omega
      · have hzero := mt hpositive.mpr hnone
        simp only [preparedParameters, if_neg hnone]
        omega

/-! The count the language gives a text. -/

theorem countedAs_parameters_iff (hsql : Lexed tokens sql) :
    CountedAs sql (parameters tokens) ↔
      enclosedMarks tokens % 2 ^ 32 = 0 ∧ parameters tokens ≤ 0xFFFF := by
  rw [countedAs_iff, hsql.count]
  omega

theorem counts_eq_iff (sql : List UInt8) :
    (preparedParameters sql).reported.toInt = announcedPlaceholders sql ↔
      sql.count questionMark % 2 ^ 32 ≤ 0xFFFF := by
  constructor
  · intro heq
    obtain ⟨hcount, hle⟩ := small_of_announced heq rfl
    omega
  · intro hsmall
    obtain ⟨hcount, hannounced⟩ := countPlaceholders_of_small hsmall
    rw [hannounced]
    exact hcount

theorem placeholders_counted_iff (sql : List UInt8) :
    (∀ tokens, Lexed tokens sql →
      (CountedAs sql (parameters tokens) ↔
        enclosedMarks tokens % 2 ^ 32 = 0 ∧ parameters tokens ≤ 0xFFFF)) ∧
    ((preparedParameters sql).reported.toInt = announcedPlaceholders sql ↔
      sql.count questionMark % 2 ^ 32 ≤ 0xFFFF) :=
  ⟨fun _ => countedAs_parameters_iff, counts_eq_iff sql⟩

theorem opensNothing_plain (byte : UInt8) (rest : List UInt8)
    (hbyte : byte ∉ [singleQuote, doubleQuote, 45, 123, 47]) :
    OpensNothing (byte :: rest) := by
  constructor
  · intro mark hopens
    obtain ⟨hmark, -⟩ := List.cons_prefix_cons.mp hopens
    rw [← hmark] at hbyte
    rcases mark.quotes with hquote | hquote
    · rw [hquote] at hbyte
      exact absurd hbyte (by decide)
    · rw [hquote] at hbyte
      exact absurd hbyte (by decide)
  · intro kind hopens
    cases kind with
    | line | brace | block =>
        obtain ⟨rfl, -⟩ := List.cons_prefix_cons.mp hopens
        exact absurd hbyte (by decide)

/-- `'a''' ?`, with a quoted string of two octets. -/
def quotedText : List UInt8 :=
  [singleQuote, 97, singleQuote, singleQuote, singleQuote, 32, questionMark]

def singleMark : QuoteMark := ⟨singleQuote, .inl rfl⟩

theorem lexed_quotedText :
    Lexed [.quoted singleMark [97, singleQuote], .other 32,
      .other questionMark] quotedText := by
  have hmarker : Lexed [.other 32, .other questionMark] [32, questionMark] :=
    .other (opensNothing_plain _ _ (by decide))
      (.other (opensNothing_plain _ _ (by decide)) .nil)
  exact @Lexed.quoted _ _ [97, singleQuote] singleMark (by decide) hmarker

/-- Its one parameter is the mark behind the string. -/
theorem placeholders_counted_iff_marker :
    CountedAs quotedText 1 ∧
      (preparedParameters quotedText).reported.toInt =
        announcedPlaceholders quotedText := by
  have hcounted := placeholders_counted_iff quotedText
  exact ⟨(hcounted.1 _ lexed_quotedText).mpr (by decide),
    hcounted.2.mpr (by decide)⟩

/-- The text `'?'` is one quoted string and has no parameter. -/
theorem placeholders_counts_quoted :
    ∃ tokens, Lexed tokens [singleQuote, questionMark, singleQuote] ∧
      ¬ CountedAs [singleQuote, questionMark, singleQuote]
        (parameters tokens) := by
  refine ⟨[.quoted singleMark [questionMark]], ?_, ?_⟩
  · exact @Lexed.quoted [] [] [questionMark] singleMark (by decide) .nil
  · intro hcounted
    exact absurd hcounted.reported (by decide)

end Libsqli.Prepare
