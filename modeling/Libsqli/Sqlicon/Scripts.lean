import Libsqli.Data.Lines
import Libsqli.Data.Splitting
import Libsqli.Sqlicon.Text

namespace Libsqli.Sqlicon

open Libsqli.Data.Ctype
open Libsqli.Data.Lines
open Libsqli.Data.Splitting
open Libsqli.Uri (held)

/-! `find_statement_terminator` -/

inductive Lexical where
  | normal
  | singleQuote
  | doubleQuote
  | lineComment
  | blockComment
  | curlyComment
  deriving DecidableEq

/-- The loop body at a character with the next one, or NUL at the end: the
statement ends here, or the state behind and whether `p` goes on by two. -/
inductive Scanned where
  | terminator
  | goes (lexical : Lexical) (skips : Bool)
  deriving DecidableEq

/-- A quote that is not escaped ends a literal. -/
def scanQuoted (quote : UInt8) (lexical : Lexical) (c next : UInt8) : Scanned :=
  if c = quote then
    if next = quote then .goes lexical true else .goes .normal false
  else .goes lexical (c = backslash && next ≠ 0)

def scanNormal (c next : UInt8) : Scanned :=
  if c = semicolon then .terminator
  else if c = singleQuote then .goes .singleQuote false
  else if c = doubleQuote then .goes .doubleQuote false
  else if c = 45 ∧ next = 45 then .goes .lineComment true
  else if c = 47 ∧ next = 42 then .goes .blockComment true
  else if c = 123 then .goes .curlyComment false
  else .goes .normal false

def scan (lexical : Lexical) (c next : UInt8) : Scanned :=
  match lexical with
  | .singleQuote => scanQuoted singleQuote .singleQuote c next
  | .doubleQuote => scanQuoted doubleQuote .doubleQuote c next
  | .lineComment =>
      .goes (if c = newline then .normal else .lineComment) false
  | .blockComment =>
      if c = 42 ∧ next = 47 then .goes .normal true else .goes .blockComment false
  | .curlyComment => .goes (if c = 125 then .normal else .curlyComment) false
  | .normal => scanNormal c next

/-- The loop, where `skips` says that this character has been read with the
one before. -/
def findFrom (lexical : Lexical) (skips : Bool) : List UInt8 → Option Nat
  | [] => none
  | c :: rest =>
      if skips then (findFrom lexical false rest).map (· + 1)
      else
        match scan lexical c (rest.headD 0) with
        | .terminator => some 0
        | .goes lexical skips => (findFrom lexical skips rest).map (· + 1)

def findStatementTerminator (str : List UInt8) : Option Nat :=
  findFrom .normal false str

/-! `execute_pending_statements`, `execute_inline_query`, `execute_stream` -/

/-- What the loops call: `execute_sql_statement` by its argument `noisy`, and
`handle_dot_command`, which also says whether to leave the loop. The former
leaves `bail_on_error` as it is. -/
structure Commands (σ : Type) where
  executeSqlStatement : Bool → List UInt8 → σ → ExitCode × σ
  handleDotCommand : List UInt8 → σ → (ExitCode × Bool) × σ
  bailOnError : σ → Bool
  bailOnError_execute : ∀ noisy sql s,
    bailOnError (executeSqlStatement noisy sql s).2 = bailOnError s

variable {σ : Type} {lexical : Lexical} {skips : Bool}
  {str later pending : List UInt8} {position : Nat}

theorem findFrom_lt (hfind : findFrom lexical skips str = some position) :
    position < str.length := by
  induction str generalizing lexical skips position with
  | nil => cases hfind
  | cons c rest ih =>
      rw [findFrom] at hfind
      split at hfind
      · obtain ⟨behind, hbehind, rfl⟩ := Option.map_eq_some_iff.mp hfind
        exact Nat.succ_lt_succ (ih hbehind)
      · split at hfind
        · cases hfind
          exact Nat.zero_lt_succ _
        · obtain ⟨behind, hbehind, rfl⟩ := Option.map_eq_some_iff.mp hfind
          exact Nat.succ_lt_succ (ih hbehind)

theorem findStatementTerminator_lt
    (hfind : findStatementTerminator str = some position) :
    position < str.length := findFrom_lt hfind

theorem length_behind_lt
    (hfind : findStatementTerminator str = some position) :
    (discardLeadingWhitespace (str.drop (position + 1))).length < str.length := by
  have hlt := findStatementTerminator_lt hfind
  have hle := length_discardLeadingWhitespace_le (str.drop (position + 1))
  rw [List.length_drop] at hle
  omega

theorem length_dropped_lt
    (hfind : findStatementTerminator (discardLeadingWhitespace str) =
      some position) :
    ((discardLeadingWhitespace str).drop (position + 1)).length < str.length := by
  have hlt := findStatementTerminator_lt hfind
  have hle := length_discardLeadingWhitespace_le str
  rw [List.length_drop]
  omega

/-- The loop of `execute_pending_statements`. -/
def pendingLoop (commands : Commands σ) (pending : List UInt8) (s : σ) :
    ExitCode × List UInt8 × σ :=
  match _hfind : findStatementTerminator pending with
  | none => (.ok, pending, s)
  | some rawLen =>
      let sql := trimSpan (pending.take rawLen)
      let rest := discardLeadingWhitespace (pending.drop (rawLen + 1))
      if sql = [] then pendingLoop commands rest s
      else
        match commands.executeSqlStatement false sql s with
        | (.ok, s) => pendingLoop commands rest s
        | (code, s) => (code, rest, s)
termination_by pending.length
decreasing_by all_goals exact length_behind_lt _hfind

def executePendingStatements (commands : Commands σ) (pending : List UInt8)
    (s : σ) : ExitCode × List UInt8 × σ :=
  if pending = [] then (.ok, pending, s)
  else pendingLoop commands (discardLeadingWhitespace pending) s

/-- The loop of `execute_inline_query`. -/
def executeInlineQuery (commands : Commands σ) (buf : List UInt8) (s : σ) :
    ExitCode × σ :=
  if buf = [] then (.ok, s)
  else
    match _hfind : findStatementTerminator (discardLeadingWhitespace buf) with
    | none =>
        let sql := trimSpan (discardLeadingWhitespace buf)
        if sql = [] then (.ok, s) else commands.executeSqlStatement true sql s
    | some rawLen =>
        let sql := trimSpan ((discardLeadingWhitespace buf).take rawLen)
        let rest := (discardLeadingWhitespace buf).drop (rawLen + 1)
        if sql = [] then executeInlineQuery commands rest s
        else
          match commands.executeSqlStatement true sql s with
          | (.ok, s) => executeInlineQuery commands rest s
          | (code, s) => (code, s)
termination_by buf.length
decreasing_by all_goals exact length_dropped_lt _hfind

/-- `fgets` into the buffer of `execute_stream`, until the file ends. -/
def reads (content : List UInt8) : List (List UInt8) :=
  pieces newline 4095 content

/-- The loop of `execute_stream` over what is read from a file. -/
def streamLoop (commands : Commands σ) : List (List UInt8) → List UInt8 → σ →
    ExitCode × List UInt8 × σ
  | [], pending, s => (.ok, pending, s)
  | buf :: input, pending, s =>
      let pending := discardLeadingWhitespace pending
      let trimmed := skipSpacesStr (held buf)
      if pending = [] ∧ trimmed.head? = some dot then
        let ((code, shouldBreak), s) := commands.handleDotCommand trimmed s
        if code ≠ .ok ∧ commands.bailOnError s then (code, pending, s)
        else if shouldBreak then (.ok, pending, s)
        else streamLoop commands input pending s
      else
        let (code, pending, s) :=
          executePendingStatements commands (pending ++ held buf) s
        if code ≠ .ok ∧ commands.bailOnError s then (code, pending, s)
        else streamLoop commands input pending s

/-- `execute_stream` behind its loop. -/
def streamEnd (commands : Commands σ) (pending : List UInt8) (s : σ) :
    ExitCode × σ :=
  let sql := trimSpan pending
  if sql = [] then (.ok, s)
  else
    let (code, s) := commands.executeSqlStatement false sql s
    if code ≠ .ok ∧ ¬ commands.bailOnError s then (.ok, s) else (code, s)

/-- What `execute_stream` makes of the outcome of its loop. -/
def streamOutcome (commands : Commands σ) :
    ExitCode × List UInt8 × σ → ExitCode × σ
  | (.ok, pending, s) => streamEnd commands pending s
  | (code, _, s) => (code, s)

/-- `execute_stream` on a file, not interactive. -/
def executeStream (commands : Commands σ) (content : List UInt8) (s : σ) :
    ExitCode × σ :=
  streamOutcome commands (streamLoop commands (reads content) [] s)

/-! The statements of a text. -/

/-- A terminator is one by what stands in front of it. -/
theorem scan_terminator {c next : UInt8}
    (hscan : scan lexical c next = .terminator) (other : UInt8) :
    scan lexical c other = .terminator := by
  cases lexical with
  | normal =>
      simp only [scan, scanNormal] at hscan ⊢
      split at hscan
      · next hsemicolon => rw [if_pos hsemicolon]
      · repeat' split at hscan
        all_goals cases hscan
  | singleQuote | doubleQuote =>
      simp only [scan, scanQuoted] at hscan
      repeat' split at hscan
      all_goals cases hscan
  | lineComment | curlyComment => cases hscan
  | blockComment =>
      simp only [scan] at hscan
      split at hscan <;> cases hscan

theorem findFrom_append (hfind : findFrom lexical skips str = some position)
    (later : List UInt8) :
    findFrom lexical skips (str ++ later) = some position := by
  induction str generalizing lexical skips position with
  | nil => cases hfind
  | cons c rest ih =>
      rw [List.cons_append, findFrom]
      rw [findFrom] at hfind
      split at hfind
      · next hskips =>
          obtain ⟨behind, hbehind, rfl⟩ := Option.map_eq_some_iff.mp hfind
          rw [if_pos hskips, ih hbehind]
          rfl
      · next hskips =>
          rw [if_neg hskips]
          split at hfind
          · next hscan =>
              rw [scan_terminator hscan]
              exact hfind
          · next hscan =>
              obtain ⟨behind, hbehind, rfl⟩ := Option.map_eq_some_iff.mp hfind
              -- Something follows, so the next character stays what it was.
              have hnext : (rest ++ later).headD 0 = rest.headD 0 := by
                cases rest with
                | nil => cases hbehind
                | cons next rest => rfl
              rw [hnext, hscan]
              exact congrArg (Option.map (· + 1)) (ih hbehind)

/-- The first statement of a text, trimmed, and what is behind its end. -/
def nextStatement (pending : List UInt8) :
    Option (List UInt8 × List UInt8) :=
  (findStatementTerminator (discardLeadingWhitespace pending)).map
    fun rawLen =>
      (trimSpan ((discardLeadingWhitespace pending).take rawLen),
        (discardLeadingWhitespace pending).drop (rawLen + 1))

theorem nextStatement_shorter {sql rest : List UInt8}
    (hcut : nextStatement str = some (sql, rest)) :
    rest.length < str.length := by
  obtain ⟨rawLen, hfind, hsql⟩ := Option.map_eq_some_iff.mp hcut
  cases hsql
  exact length_dropped_lt hfind

theorem nextStatement_stable {sql rest : List UInt8}
    (hcut : nextStatement str = some (sql, rest)) (later : List UInt8) :
    nextStatement (str ++ later) = some (sql, rest ++ later) := by
  obtain ⟨rawLen, hfind, hsql⟩ := Option.map_eq_some_iff.mp hcut
  have hlt := findStatementTerminator_lt hfind
  have hsome : discardLeadingWhitespace str ≠ [] := List.ne_nil_of_length_pos
    (Nat.lt_of_le_of_lt (Nat.zero_le _) hlt)
  cases hsql
  rw [nextStatement, discardLeadingWhitespace_append hsome,
    findStatementTerminator, findFrom_append hfind, Option.map_some,
    List.take_append_of_le_length (Nat.le_of_lt hlt),
    List.drop_append_of_le_length hlt]

def statements : Splitter UInt8 (List UInt8) where
  cut := nextStatement
  shorter := nextStatement_shorter
  stable := fun hcut later => nextStatement_stable hcut later

/-- The statements of a text that are not empty, the last one with or without
a semicolon. -/
def scriptStatements (text : List UInt8) : List (List UInt8) :=
  ((statements.split text).1 ++ [trimSpan (statements.split text).2]).filter
    (· ≠ [])

/-- Statements one after the other, until one fails. -/
def runStatements (execute : List UInt8 → σ → ExitCode × σ) :
    List (List UInt8) → σ → ExitCode × σ
  | [], s => (.ok, s)
  | sql :: rest, s =>
      match execute sql s with
      | (.ok, s) => runStatements execute rest s
      | (code, s) => (code, s)

variable {execute : List UInt8 → σ → ExitCode × σ} {s : σ} {code : ExitCode}
  {sql : List UInt8} {first second : List (List UInt8)}

theorem runStatements_ok {after : σ}
    (hfirst : runStatements execute first s = (.ok, after)) :
    runStatements execute (first ++ second) s =
      runStatements execute second after := by
  induction first generalizing s with
  | nil =>
      cases hfirst
      rfl
  | cons sql rest ih =>
      rw [runStatements] at hfirst
      rw [List.cons_append, runStatements]
      split at hfirst
      · exact ih hfirst
      · next hfailed hexecute =>
          cases hfirst
          exact absurd rfl hfailed

theorem runStatements_failed {after : σ} (hcode : code ≠ .ok)
    (hfirst : runStatements execute first s = (code, after)) :
    runStatements execute (first ++ second) s = (code, after) := by
  induction first generalizing s with
  | nil =>
      cases hfirst
      exact absurd rfl hcode
  | cons sql rest ih =>
      rw [runStatements] at hfirst
      rw [List.cons_append, runStatements]
      split at hfirst
      · exact ih hfirst
      · next hfailed hexecute =>
          cases hfirst
          rfl

theorem nextStatement_discard (pending : List UInt8) :
    nextStatement (discardLeadingWhitespace pending) = nextStatement pending := by
  rw [nextStatement, nextStatement, discardLeadingWhitespace_discard]

/-- White space in front makes no difference to the statements. -/
theorem split_discard (pending : List UInt8) :
    (statements.split (discardLeadingWhitespace pending)).1 =
        (statements.split pending).1 ∧
      discardLeadingWhitespace
          (statements.split (discardLeadingWhitespace pending)).2 =
        discardLeadingWhitespace (statements.split pending).2 := by
  have hsame : statements.cut (discardLeadingWhitespace pending) =
      statements.cut pending := nextStatement_discard pending
  cases hcut : statements.cut pending with
  | none =>
      rw [Splitter.split_none hcut, Splitter.split_none (hsame.trans hcut)]
      exact ⟨rfl, discardLeadingWhitespace_discard pending⟩
  | some found =>
      obtain ⟨sql, rest⟩ := found
      rw [Splitter.split_some hcut, Splitter.split_some (hsame.trans hcut)]
      exact ⟨rfl, rfl⟩

theorem scriptStatements_discard (pending : List UInt8) :
    scriptStatements (discardLeadingWhitespace pending) =
      scriptStatements pending := by
  obtain ⟨hitems, hrest⟩ := split_discard pending
  rw [scriptStatements, scriptStatements, hitems,
    ← trimSpan_discard (statements.split (discardLeadingWhitespace pending)).2,
    hrest, trimSpan_discard]

theorem scriptStatements_discard_append (pending later : List UInt8) :
    scriptStatements (discardLeadingWhitespace pending ++ later) =
      scriptStatements (pending ++ later) := by
  rw [← scriptStatements_discard, discardLeadingWhitespace_discard_append,
    scriptStatements_discard]

theorem scriptStatements_none (hcut : nextStatement pending = none) :
    scriptStatements pending = [trimSpan pending].filter (· ≠ []) := by
  rw [scriptStatements, Splitter.split_none hcut]
  rfl

theorem scriptStatements_some {rest : List UInt8}
    (hcut : nextStatement pending = some (sql, rest)) :
    scriptStatements pending = [sql].filter (· ≠ []) ++ scriptStatements rest := by
  rw [scriptStatements, Splitter.split_some hcut, List.cons_append,
    ← List.singleton_append, List.filter_append]
  rfl

/-- The whole statements at the front of a text, which leave the rest. -/
def wholeStatements (text : List UInt8) : List (List UInt8) :=
  (statements.split text).1.filter (· ≠ [])

/-- What has arrived may be worked off before the rest arrives. -/
theorem scriptStatements_append (pending later : List UInt8) :
    scriptStatements (pending ++ later) =
      wholeStatements pending ++
        scriptStatements ((statements.split pending).2 ++ later) := by
  rw [scriptStatements, Splitter.split_append, List.append_assoc,
    List.filter_append]
  rfl

/-! The runs of the loops. -/

theorem nextStatement_of_find
    (hfind : findStatementTerminator (discardLeadingWhitespace pending) =
      some position) :
    nextStatement pending =
      some (trimSpan ((discardLeadingWhitespace pending).take position),
        (discardLeadingWhitespace pending).drop (position + 1)) := by
  rw [nextStatement, hfind, Option.map_some]

theorem nextStatement_of_none
    (hfind : findStatementTerminator (discardLeadingWhitespace pending) =
      none) : nextStatement pending = none := by
  rw [nextStatement, hfind, Option.map_none]

theorem runStatements_single (execute : List UInt8 → σ → ExitCode × σ)
    (hsql : sql ≠ []) (s : σ) :
    runStatements execute ([sql].filter (· ≠ [])) s = execute sql s := by
  have hfilter : [sql].filter (· ≠ []) = [sql] := by
    simpa using hsql
  rw [hfilter]
  simp only [runStatements]
  split
  · next hexecute => exact hexecute.symm
  · next hexecute => exact hexecute.symm

/-! A statement in front of others, by how it ends. -/

theorem runStatements_empty (execute : List UInt8 → σ → ExitCode × σ)
    (hsql : sql = []) (s : σ) :
    runStatements execute ([sql].filter (· ≠ []) ++ second) s =
      runStatements execute second s := by
  subst hsql
  rfl

theorem runStatements_executed {after : σ} (hsql : sql ≠ [])
    (hexecute : execute sql s = (.ok, after)) :
    runStatements execute ([sql].filter (· ≠ []) ++ second) s =
      runStatements execute second after :=
  runStatements_ok ((runStatements_single execute hsql s).trans hexecute)

theorem runStatements_refused {after : σ} (hsql : sql ≠ [])
    (hcode : code ≠ .ok) (hexecute : execute sql s = (code, after)) :
    runStatements execute ([sql].filter (· ≠ []) ++ second) s = (code, after) :=
  runStatements_failed hcode
    ((runStatements_single execute hsql s).trans hexecute)

theorem executeInlineQuery_runs (commands : Commands σ) (text : List UInt8)
    (s : σ) :
    executeInlineQuery commands text s =
      runStatements (commands.executeSqlStatement true)
        (scriptStatements text) s := by
  fun_induction executeInlineQuery commands text s with
  | case1 s =>
      rw [scriptStatements_none (by decide)]
      rfl
  | case2 buf s hbuf hfind sql hsql =>
      rw [scriptStatements_none (nextStatement_of_none hfind),
        ← trimSpan_discard, ← List.append_nil (List.filter _ _),
        runStatements_empty _ hsql]
      rfl
  | case3 buf s hbuf hfind sql hsql =>
      rw [scriptStatements_none (nextStatement_of_none hfind),
        ← trimSpan_discard]
      exact (runStatements_single _ hsql s).symm
  | case4 buf s hbuf rawLen hfind sql rest hsql ih =>
      rw [ih, scriptStatements_some (nextStatement_of_find hfind),
        runStatements_empty _ hsql]
  | case5 buf s hbuf rawLen hfind sql rest hsql after hexecute ih =>
      rw [ih, scriptStatements_some (nextStatement_of_find hfind),
        runStatements_executed hsql hexecute]
  | case6 buf s hbuf rawLen hfind sql hsql code after hcode hexecute =>
      rw [scriptStatements_some (nextStatement_of_find hfind),
        runStatements_refused hsql (fun h => hcode h) hexecute]

/-- The pending text is worked off: its whole statements have been run, and
without a failure the rest is what they leave. -/
structure WorkedOff (execute : List UInt8 → σ → ExitCode × σ)
    (pending : List UInt8) (s : σ) (outcome : ExitCode × List UInt8 × σ) :
    Prop where
  ran : runStatements execute (wholeStatements pending) s =
    (outcome.1, outcome.2.2)
  left : outcome.1 = .ok →
    outcome.2.1 = discardLeadingWhitespace (statements.split pending).2

theorem wholeStatements_none (hcut : nextStatement pending = none) :
    wholeStatements pending = [] := by
  rw [wholeStatements, Splitter.split_none hcut]
  rfl

theorem wholeStatements_some {rest : List UInt8}
    (hcut : nextStatement pending = some (sql, rest)) :
    wholeStatements pending =
      [sql].filter (· ≠ []) ++ wholeStatements (discardLeadingWhitespace rest) := by
  rw [wholeStatements, wholeStatements, Splitter.split_some hcut,
    ← List.singleton_append, List.filter_append, (split_discard rest).1]

theorem left_some {rest : List UInt8}
    (hcut : nextStatement pending = some (sql, rest)) :
    discardLeadingWhitespace (statements.split pending).2 =
      discardLeadingWhitespace
        (statements.split (discardLeadingWhitespace rest)).2 := by
  rw [Splitter.split_some hcut, (split_discard rest).2]

theorem pendingLoop_workedOff (commands : Commands σ) (pending : List UInt8)
    (s : σ) (hled : discardLeadingWhitespace pending = pending) :
    WorkedOff (commands.executeSqlStatement false) pending s
      (pendingLoop commands pending s) := by
  fun_induction pendingLoop commands pending s with
  | case1 pending s hfind =>
      rw [← hled] at hfind
      have hcut := nextStatement_of_none hfind
      refine ⟨?_, fun _ => ?_⟩
      · rw [wholeStatements_none hcut]
        rfl
      · rw [Splitter.split_none hcut]
        exact hled.symm
  | case2 pending s rawLen hfind sql rest hsql ih =>
      have hcut := nextStatement_of_find (hled.symm ▸ hfind)
      rw [hled] at hcut
      obtain ⟨hran, hleft⟩ := ih (discardLeadingWhitespace_discard _)
      refine ⟨?_, fun hok => ?_⟩
      · rw [wholeStatements_some hcut, runStatements_empty _ hsql]
        exact hran
      · rw [left_some hcut]
        exact hleft hok
  | case3 pending s rawLen hfind sql rest hsql after hexecute ih =>
      have hcut := nextStatement_of_find (hled.symm ▸ hfind)
      rw [hled] at hcut
      obtain ⟨hran, hleft⟩ := ih (discardLeadingWhitespace_discard _)
      refine ⟨?_, fun hok => ?_⟩
      · rw [wholeStatements_some hcut, runStatements_executed hsql hexecute]
        exact hran
      · rw [left_some hcut]
        exact hleft hok
  | case4 pending s rawLen hfind sql rest hsql code after hcode hexecute =>
      have hcut := nextStatement_of_find (hled.symm ▸ hfind)
      rw [hled] at hcut
      refine ⟨?_, fun hok => absurd hok fun h => hcode h⟩
      rw [wholeStatements_some hcut]
      exact runStatements_refused hsql (fun h => hcode h) hexecute

theorem executePendingStatements_workedOff (commands : Commands σ)
    (pending : List UInt8) (s : σ) :
    WorkedOff (commands.executeSqlStatement false) pending s
      (executePendingStatements commands pending s) := by
  rw [executePendingStatements]
  split
  · next hnil =>
      subst hnil
      have hcut : nextStatement [] = none := rfl
      refine ⟨?_, fun _ => ?_⟩
      · rw [wholeStatements_none hcut]
        rfl
      · rw [Splitter.split_none hcut]
        rfl
  · obtain ⟨hran, hleft⟩ := pendingLoop_workedOff commands
      (discardLeadingWhitespace pending) s (discardLeadingWhitespace_discard _)
    obtain ⟨hitems, hrest⟩ := split_discard pending
    refine ⟨?_, fun hok => ?_⟩
    · rw [wholeStatements, hitems] at hran
      exact hran
    · rw [hleft hok, hrest]

/-- The text that a file is read as. -/
def scriptText (content : List UInt8) : List UInt8 :=
  (reads content).flatMap held

/-- A file without a NUL is read as it is. -/
theorem scriptText_plain {content : List UInt8} (hplain : 0 ∉ content) :
    scriptText content = content := by
  have hflatten := flatten_pieces newline (show 0 < 4095 by decide) content
  have hheld : ∀ buf ∈ reads content, held buf = id buf := by
    intro buf hbuf
    refine List.takeWhile_eq_self_iff.mpr fun c hc => ?_
    have hmember : c ∈ content := by
      rw [← hflatten]
      exact List.mem_flatten_of_mem hbuf hc
    exact decide_eq_true fun hnul => hplain (hnul ▸ hmember)
  rw [scriptText, List.flatMap_congr hheld, List.flatMap_id]
  exact hflatten

/-- No read that finds nothing pending behind this text starts with a dot. -/
def Dotless (behind : List UInt8) : List (List UInt8) → Prop
  | [] => True
  | buf :: input =>
      (discardLeadingWhitespace (statements.split behind).2 = [] →
        (skipSpacesStr (held buf)).head? ≠ some dot) ∧
      Dotless (behind ++ held buf) input

instance Dotless.decide (behind : List UInt8) :
    (input : List (List UInt8)) → Decidable (Dotless behind input)
  | [] => inferInstanceAs (Decidable True)
  | buf :: input =>
      have := Dotless.decide (behind ++ held buf) input
      inferInstanceAs (Decidable (_ ∧ _))

/-- What is pending behind a text is pending behind the next read. -/
theorem left_append (behind later : List UInt8)
    (hpending : discardLeadingWhitespace pending =
      discardLeadingWhitespace (statements.split behind).2) :
    discardLeadingWhitespace
        (statements.split (discardLeadingWhitespace pending ++ later)).2 =
      discardLeadingWhitespace (statements.split (behind ++ later)).2 := by
  have hsplit := Splitter.split_append statements behind later
  rw [hsplit, hpending, ← (split_discard _).2,
    discardLeadingWhitespace_discard_append, (split_discard _).2]

theorem nextStatement_left {behind : List UInt8}
    (hpending : discardLeadingWhitespace pending =
      discardLeadingWhitespace (statements.split behind).2) :
    nextStatement pending = none := by
  rw [← nextStatement_discard, hpending, nextStatement_discard]
  exact Splitter.cut_split statements behind

theorem bailOnError_runStatements (commands : Commands σ) (noisy : Bool)
    (list : List (List UInt8)) (s : σ) :
    commands.bailOnError
        (runStatements (commands.executeSqlStatement noisy) list s).2 =
      commands.bailOnError s := by
  induction list generalizing s with
  | nil => rfl
  | cons sql rest ih =>
      have hkept := commands.bailOnError_execute noisy sql s
      rw [runStatements]
      split
      · next after hexecute =>
          rw [hexecute] at hkept
          rw [ih, hkept]
      · next after hcode hexecute =>
          rw [hexecute] at hkept
          exact hkept

theorem streamOutcome_failed (commands : Commands σ) (hcode : code ≠ .ok) :
    streamOutcome commands (code, pending, s) = (code, s) := by
  cases code with
  | ok => exact absurd rfl hcode
  | _ => rfl

/-- A failure either leaves the loop or does not come. -/
theorem streamLoop_runs (commands : Commands σ) (input : List (List UInt8))
    (behind pending : List UInt8) (s : σ) (hdotless : Dotless behind input)
    (hpending : discardLeadingWhitespace pending =
      discardLeadingWhitespace (statements.split behind).2)
    (hstops : commands.bailOnError s = true ∨
      (runStatements (commands.executeSqlStatement false)
        (scriptStatements (pending ++ input.flatMap held)) s).1 = .ok) :
    streamOutcome commands (streamLoop commands input pending s) =
      runStatements (commands.executeSqlStatement false)
        (scriptStatements (pending ++ input.flatMap held)) s := by
  induction input generalizing behind pending s with
  | nil =>
      rw [List.flatMap_nil, List.append_nil,
        scriptStatements_none (nextStatement_left hpending)] at hstops ⊢
      simp only [streamLoop, streamOutcome, streamEnd]
      by_cases hsql : trimSpan pending = []
      · rw [if_pos hsql, hsql]
        rfl
      · rw [if_neg hsql, runStatements_single _ hsql]
        rw [runStatements_single _ hsql] at hstops
        have hkept := commands.bailOnError_execute false (trimSpan pending) s
        split
        · next hfails =>
            rcases hstops with hbail | hok
            · exact absurd (hkept.trans hbail) hfails.2
            · exact absurd hok hfails.1
        · rfl
  | cons buf input ih =>
      obtain ⟨hdot, hrest⟩ := hdotless
      rw [← hpending] at hdot
      have hwhole : scriptStatements
            (pending ++ (buf :: input).flatMap held) =
          wholeStatements (discardLeadingWhitespace pending ++ held buf) ++
            scriptStatements (discardLeadingWhitespace (statements.split
              (discardLeadingWhitespace pending ++ held buf)).2 ++
                input.flatMap held) := by
        rw [List.flatMap_cons, ← scriptStatements_discard_append,
          ← List.append_assoc, scriptStatements_append,
          scriptStatements_discard_append]
      obtain ⟨hran, hleft⟩ := executePendingStatements_workedOff commands
        (discardLeadingWhitespace pending ++ held buf) s
      have hkept := bailOnError_runStatements commands false
        (wholeStatements (discardLeadingWhitespace pending ++ held buf)) s
      rw [hran] at hkept
      rw [hwhole] at hstops ⊢
      rw [streamLoop]
      dsimp only
      rw [if_neg fun h => hdot h.1 h.2]
      generalize executePendingStatements commands
        (discardLeadingWhitespace pending ++ held buf) s = outcome
        at hran hleft hkept
      obtain ⟨code, left, after⟩ := outcome
      by_cases hcode : code = .ok
      · subst hcode
        have hleft : left = discardLeadingWhitespace (statements.split
            (discardLeadingWhitespace pending ++ held buf)).2 := hleft rfl
        rw [runStatements_ok hran, ← hkept, ← hleft] at hstops
        rw [runStatements_ok hran, ← hleft, if_neg fun h => h.1 rfl]
        refine ih (behind ++ held buf) left after hrest ?_ hstops
        rw [hleft, discardLeadingWhitespace_discard]
        exact left_append behind (held buf) hpending
      · rw [runStatements_failed hcode hran] at hstops ⊢
        have hbail : commands.bailOnError after = true := by
          rcases hstops with hbail | hok
          · exact hkept.trans hbail
          · exact absurd hok hcode
        rw [if_pos ⟨hcode, hbail⟩]
        exact streamOutcome_failed commands hcode

/-- A file that is read and run line by line and the same text as one argument
make the same statements, run in order until one fails. -/
theorem executeStream_agrees (commands : Commands σ) (content : List UInt8)
    (s : σ) (hdotless : Dotless [] (reads content))
    (hstops : commands.bailOnError s = true ∨
      (runStatements (commands.executeSqlStatement false)
        (scriptStatements (scriptText content)) s).1 = .ok) :
    executeStream commands content s =
        runStatements (commands.executeSqlStatement false)
          (scriptStatements (scriptText content)) s ∧
      executeInlineQuery commands (scriptText content) s =
        runStatements (commands.executeSqlStatement true)
          (scriptStatements (scriptText content)) s := by
  have hnone : discardLeadingWhitespace [] =
      discardLeadingWhitespace (statements.split []).2 := by
    rw [Splitter.split_none rfl]
  exact ⟨streamLoop_runs commands (reads content) [] [] s hdotless hnone hstops,
    executeInlineQuery_runs commands (scriptText content) s⟩

/-- Statements are kept in a list, and `x` fails. -/
def sampleCommands : Commands (List (List UInt8)) where
  executeSqlStatement := fun _ sql log =>
    (if sql = [120] then .sqlError else .ok, log ++ [sql])
  handleDotCommand := fun _ log => ((.ok, false), log)
  bailOnError := fun _ => true
  bailOnError_execute := fun _ _ _ => rfl

/-- `a; {;} b;` and `x; c` on two lines. -/
def sampleScript : List UInt8 :=
  [97, 59, 32, 123, 59, 125, 32, 98, 59, 10, 120, 59, 32, 99]

/-- Both stop at the third statement. -/
theorem executeStream_agrees_sample :
    let ran := (ExitCode.sqlError, [[97], [123, 59, 125, 32, 98], [120]])
    executeStream sampleCommands sampleScript [] = ran ∧
      executeInlineQuery sampleCommands sampleScript [] = ran := by
  obtain ⟨hstream, hinline⟩ := executeStream_agrees sampleCommands sampleScript
    [] (by decide +kernel) (.inl rfl)
  have hplain : scriptText sampleScript = sampleScript :=
    scriptText_plain (by decide)
  rw [hplain] at hstream hinline
  rw [hstream, hinline]
  decide +kernel

end Libsqli.Sqlicon
