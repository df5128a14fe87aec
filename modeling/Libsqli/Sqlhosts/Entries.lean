import Libsqli.Data.Lines
import Libsqli.Data.Scan
import Libsqli.Status
import Libsqli.Uri.Decode
import Mathlib.Data.List.DropRight

namespace Libsqli.Sqlhosts

open Libsqli.Data.Ctype
open Libsqli.Data.Lines
open Libsqli.Data.Scan
open Libsqli.Uri (held)

/-! `sqli_parse_sqlhosts`. -/

def maxLine : Nat := 1024

def maxEntries : Nat := 256

def isBlank (byte : UInt8) : Bool :=
  byte == 32 || byte == 9 || byte == 13 || byte == 10

/-- `trim` -/
def trim (s : List UInt8) : List UInt8 :=
  (s.dropWhile isBlank).rdropWhile isBlank

/-- `sqli_sqlhosts_entry`, each field by the C string in it. -/
structure SqlhostsEntry where
  serverName : List UInt8
  protocol : List UInt8
  hostname : List UInt8
  service : List UInt8
  options : List UInt8
  deriving DecidableEq

/-- The variables that a scan of at least four fields assigns. -/
structure Fields where
  serverName : List UInt8
  protocol : List UInt8
  hostname : List UInt8
  service : List UInt8
  options : Option (List UInt8)
  deriving DecidableEq

/-- `%Ns` with a limit for N, and the text behind the word. -/
def scanWord (limit : Nat) (text : List UInt8) :
    Option (List UInt8 × List UInt8) :=
  let word := ((skipSpaces text).takeWhile fun byte => !isSpace byte).take limit
  if word = [] then none
  else some (word, (skipSpaces text).drop word.length)

/-- White space and `%255[^\n]`, which has to match a byte. -/
def scanOptions (text : List UInt8) : Option (List UInt8) :=
  let options := ((skipSpaces text).takeWhile (· ≠ newline)).take 255
  if options = [] then none else some options

/-- `sscanf` with `%255s %63s %255s %63s %255[^\n]`; none is a result below
four. -/
def scanFields (s : List UInt8) : Option Fields := do
  let (serverName, s) ← scanWord 255 s
  let (protocol, s) ← scanWord 63 s
  let (hostname, s) ← scanWord 255 s
  let (service, s) ← scanWord 63 s
  some ⟨serverName, protocol, hostname, service, scanOptions s⟩

/-- The fields in the line buffer, if it is neither blank nor a comment, an
include directive or malformed. -/
def lineFields (line : List UInt8) : Option Fields :=
  let s := trim (held line)
  if s = [] ∨ s.head? = some 35 ∨ s.head? = some 64 then none
  else scanFields s

/-- The entry made of the variables, with the C string that the options
variable held before the scan. -/
def Fields.entry (options : List UInt8) (fields : Fields) : SqlhostsEntry where
  serverName := trim fields.serverName
  protocol := trim fields.protocol
  hostname := trim fields.hostname
  service := trim fields.service
  options := trim (fields.options.getD options)

/-- What the options variable holds when an iteration begins: nothing writes
it before the scan. -/
abbrev Stack := Nat → List UInt8

/-- The loop over what `fgets` delivers. -/
def readEntries (stack : Stack) (n : Nat) :
    List (List UInt8) → List SqlhostsEntry
  | [] => []
  | line :: rest =>
      if n < maxEntries then
        match lineFields line with
        | none => readEntries (fun i => stack (i + 1)) n rest
        | some fields =>
            fields.entry (held (stack 0)) ::
              readEntries (fun i => stack (i + 1)) (n + 1) rest
      else []

/-- What the function asks the system for. -/
structure System where
  informixdir : Option (List UInt8)
  regular : List UInt8 → Bool
  content : List UInt8 → Option (List UInt8)
  calloc : Bool

/-- `/etc/sqlhosts` -/
def etcSqlhosts : List UInt8 :=
  [47, 101, 116, 99, 47, 115, 113, 108, 104, 111, 115, 116, 115]

def sqlhostsPath (system : System) (filepath : Option (List UInt8)) :
    List UInt8 :=
  match filepath, system.informixdir with
  | some filepath, _ => filepath.take (maxLine - 1)
  | none, some env => (env ++ etcSqlhosts).take (maxLine - 1)
  | none, none => etcSqlhosts

/-- `sqli_parse_sqlhosts` with places for both results. -/
def parseSqlhosts (system : System) (stack : Stack)
    (filepath : Option (List UInt8)) : Status × List SqlhostsEntry :=
  let path := sqlhostsPath system filepath
  if system.regular path = false then (.ok, [])
  else
    match system.content path with
    | none => (.ioError, [])
    | some content =>
        if system.calloc = false then (.allocFail, [])
        else (.ok, readEntries stack 0 (pieces newline (maxLine - 1) content))

/-! What the lines of a file are worth one by one. -/

/-- An entry by nothing but one line, without options if it has none. -/
def lineEntry (line : List UInt8) : Option SqlhostsEntry :=
  (lineFields line).map (Fields.entry [])

/-- The path leads to a file with this content, and there is memory. -/
structure Reads (system : System) (filepath : Option (List UInt8))
    (content : List UInt8) : Prop where
  regular : system.regular (sqlhostsPath system filepath) = true
  content : system.content (sqlhostsPath system filepath) = some content
  calloc : system.calloc = true

/-- The lines are parsed independently. -/
structure Independent (content : List UInt8) : Prop where
  file : ∀ system stack filepath, Reads system filepath content →
    parseSqlhosts system stack filepath =
      (.ok, (lines newline content).filterMap lineEntry)
  line : ∀ line ∈ lines newline content, ∀ system stack filepath,
    Reads system filepath line →
      parseSqlhosts system stack filepath = (.ok, (lineEntry line).toList)

/-- The parts of a line that come into the line buffer. -/
def lineParts (line : List UInt8) : List (List UInt8) := chunks (maxLine - 1) line

/-- One part gives the entry of the line and the others are skipped; of a line that
is skipped, all of them are. -/
def OneCounts (line : List UInt8) : Prop :=
  match lineEntry line with
  | none => ∀ part ∈ lineParts line, lineEntry part = none
  | some entry => ∃ front part behind,
      lineParts line = front ++ part :: behind ∧
        lineEntry part = some entry ∧
          ∀ other ∈ front ++ behind, lineEntry other = none

structure Regular (content : List UInt8) : Prop where
  /-- No part has four fields and nothing behind them. -/
  assigned : ∀ line ∈ lines newline content, ∀ part ∈ lineParts line,
    ∀ fields, lineFields part = some fields → fields.options ≠ none
  /-- A line that does not fit the buffer is cut where it makes no difference. -/
  whole : ∀ line ∈ lines newline content, maxLine ≤ line.length →
    OneCounts line
  few : ((lines newline content).filterMap lineEntry).length ≤ maxEntries

variable {content : List UInt8}

/-- The entries without a limit to their number. -/
def allEntries : Stack → List (List UInt8) → List SqlhostsEntry
  | _, [] => []
  | stack, line :: rest =>
      ((lineFields line).map (Fields.entry (held (stack 0)))).toList ++
        allEntries (fun i => stack (i + 1)) rest

theorem readEntries_eq (stack : Stack) (n : Nat) (parts : List (List UInt8)) :
    readEntries stack n parts =
      (allEntries stack parts).take (maxEntries - n) := by
  induction parts generalizing stack n with
  | nil => rw [readEntries, allEntries, List.take_nil]
  | cons part rest ih =>
      rw [readEntries, allEntries]
      by_cases hroom : n < maxEntries
      · rw [if_pos hroom]
        cases lineFields part with
        | none => exact ih _ n
        | some fields =>
            have hcount : maxEntries - n = (maxEntries - (n + 1)) + 1 := by
              omega
            rw [hcount]
            exact congrArg (_ :: ·) (ih _ (n + 1))
      · have hnone : maxEntries - n = 0 := by omega
        rw [if_neg hroom, hnone, List.take_zero]

/-- Where the scan assigns the options the old ones are of no effect. -/
theorem entry_assigned {fields : Fields} (hassigned : fields.options ≠ none)
    (options : List UInt8) : fields.entry options = fields.entry [] := by
  obtain ⟨_, hoptions⟩ := Option.ne_none_iff_exists'.mp hassigned
  rw [Fields.entry, Fields.entry, hoptions]
  rfl

theorem allEntries_assigned (stack : Stack) {parts : List (List UInt8)}
    (hassigned : ∀ part ∈ parts, ∀ fields, lineFields part = some fields →
      fields.options ≠ none) :
    allEntries stack parts = parts.filterMap lineEntry := by
  induction parts generalizing stack with
  | nil => rfl
  | cons part rest ih =>
      have hrest := ih (fun i => stack (i + 1)) fun part hpart =>
        hassigned part (List.mem_cons_of_mem _ hpart)
      rw [allEntries, List.filterMap_cons, hrest, lineEntry]
      cases hfields : lineFields part with
      | none => rfl
      | some fields =>
          have hsome := hassigned part List.mem_cons_self fields hfields
          rw [Option.map_some, Option.map_some, entry_assigned hsome]
          rfl

theorem allEntries_same (buffer : List UInt8) (parts : List (List UInt8)) :
    allEntries (fun _ => buffer) parts = parts.filterMap fun part =>
      (lineFields part).map (Fields.entry (held buffer)) := by
  induction parts with
  | nil => rfl
  | cons part rest ih =>
      rw [allEntries, List.filterMap_cons, ih]
      cases lineFields part <;> rfl

theorem parseSqlhosts_reads {system : System}
    {filepath : Option (List UInt8)} (hreads : Reads system filepath content)
    (stack : Stack) : parseSqlhosts system stack filepath =
      (.ok, (allEntries stack
        ((lines newline content).flatMap lineParts)).take maxEntries) := by
  have hparts := pieces_eq newline (show 0 < maxLine - 1 by decide) content
  rw [parseSqlhosts, hreads.regular, hreads.content, hreads.calloc]
  change (Status.ok, readEntries stack 0 _) = _
  rw [hparts, readEntries_eq]
  rfl

theorem parseSqlhosts_line {system : System} {line : List UInt8}
    {filepath : Option (List UInt8)} (hline : line ∈ lines newline content)
    (hreads : Reads system filepath line) (stack : Stack) :
    parseSqlhosts system stack filepath =
      (.ok, (allEntries stack (lineParts line)).take maxEntries) := by
  rw [parseSqlhosts_reads hreads, lines_of_mem hline, List.flatMap_singleton]

theorem lineParts_short {line : List UInt8} (hline : line ≠ [])
    (hshort : line.length < maxLine) : lineParts line = [line] :=
  chunks_short (by decide) hline (Nat.le_sub_one_of_lt hshort)

theorem oneCounts_iff (line : List UInt8) :
    OneCounts line ↔
      (lineParts line).filterMap lineEntry = (lineEntry line).toList := by
  unfold OneCounts
  cases lineEntry line with
  | none => exact List.filterMap_eq_nil_iff.symm
  | some entry =>
      rw [Option.toList_some, List.filterMap_eq_cons_iff]
      constructor
      · rintro ⟨front, part, behind, hparts, hentry, hothers⟩
        refine ⟨front, part, behind, hparts, fun other hother => ?_, hentry, ?_⟩
        · exact hothers other (List.mem_append_left _ hother)
        · refine List.filterMap_eq_nil_iff.mpr fun other hother => ?_
          exact hothers other (List.mem_append_right _ hother)
      · rintro ⟨front, part, behind, hparts, hfront, hentry, hbehind⟩
        refine ⟨front, part, behind, hparts, hentry, fun other hother => ?_⟩
        rcases List.mem_append.mp hother with hother | hother
        · exact hfront other hother
        · exact List.filterMap_eq_nil_iff.mp hbehind other hother

theorem Regular.parts (hregular : Regular content) :
    ∀ line ∈ lines newline content,
      (lineParts line).filterMap lineEntry = (lineEntry line).toList := by
  intro line hline
  by_cases hlong : maxLine ≤ line.length
  · exact (oneCounts_iff line).mp (hregular.whole line hline hlong)
  · rw [lineParts_short (ne_nil_of_mem_lines hline) (Nat.not_le.mp hlong),
      List.filterMap_cons]
    cases lineEntry line <;> rfl

/-- Where every line fits the buffer, options decide about a file. -/
theorem regular_short_iff
    (hshort : ∀ line ∈ lines newline content, line.length < maxLine) :
    Regular content ↔
      (∀ line ∈ lines newline content, ∀ fields,
        lineFields line = some fields → fields.options ≠ none) ∧
      ((lines newline content).filterMap lineEntry).length ≤ maxEntries := by
  have hparts : ∀ line ∈ lines newline content, lineParts line = [line] :=
    fun line hline => lineParts_short (ne_nil_of_mem_lines hline)
      (hshort line hline)
  constructor
  · intro hregular
    refine ⟨fun line hline => ?_, hregular.few⟩
    refine hregular.assigned line hline line ?_
    rw [hparts line hline]
    exact List.mem_singleton_self line
  · rintro ⟨hassigned, hfew⟩
    exact {
      assigned := fun line hline part hpart => by
        rw [hparts line hline, List.mem_singleton] at hpart
        exact hpart ▸ hassigned line hline
      whole := fun line hline hlong =>
        absurd (hshort line hline) (Nat.not_lt.mpr hlong)
      few := hfew }

theorem Regular.independent (hregular : Regular content) :
    Independent content where
  file := fun system stack filepath hreads => by
    have hassigned : ∀ part ∈ (lines newline content).flatMap lineParts,
        ∀ fields, lineFields part = some fields → fields.options ≠ none := by
      intro part hpart
      obtain ⟨line, hline, hpart⟩ := List.mem_flatMap.mp hpart
      exact hregular.assigned line hline part hpart
    have hentries : ((lines newline content).flatMap lineParts).filterMap
        lineEntry = (lines newline content).filterMap lineEntry := by
      rw [List.filterMap_flatMap, List.filterMap_eq_flatMap_toList]
      exact List.flatMap_congr hregular.parts
    rw [parseSqlhosts_reads hreads, allEntries_assigned stack hassigned,
      hentries, List.take_of_length_le hregular.few]
  line := fun line hline system stack filepath hreads => by
    have hone : (lineEntry line).toList.length ≤ maxEntries :=
      (Option.length_toList_le).trans (by decide)
    rw [parseSqlhosts_line hline hreads,
      allEntries_assigned stack (hregular.assigned line hline),
      hregular.parts line hline, List.take_of_length_le hone]

/-- A file with some content is where every path leads. -/
def reader (content : List UInt8) : System where
  informixdir := none
  regular := fun _ => true
  content := fun _ => some content
  calloc := true

theorem reader_reads (content : List UInt8) :
    Reads (reader content) none content := ⟨rfl, rfl, rfl⟩

/-- A line gives at most one entry, so that all of its parts are read. -/
theorem Independent.allEntries (hindependent : Independent content)
    {line : List UInt8} (hline : line ∈ lines newline content)
    (stack : Stack) :
    Sqlhosts.allEntries stack (lineParts line) = (lineEntry line).toList := by
  have hparse := hindependent.line line hline _ stack _ (reader_reads line)
  rw [parseSqlhosts_line hline (reader_reads line)] at hparse
  have htake := (Prod.mk.inj hparse).2
  have hshort : (Sqlhosts.allEntries stack (lineParts line)).length ≤
      maxEntries := by
    have hlength := congrArg List.length htake
    have hone := @Option.length_toList_le _ (lineEntry line)
    rw [List.length_take] at hlength
    have hlimit : 1 < maxEntries := by decide
    omega
  rwa [List.take_of_length_le hshort] at htake

/-- Two contents of the options variable tell whether the scan writes it. -/
theorem Independent.assigned (hindependent : Independent content)
    {line : List UInt8} (hline : line ∈ lines newline content)
    {part : List UInt8} (hpart : part ∈ lineParts line) {fields : Fields}
    (hfields : lineFields part = some fields) : fields.options ≠ none := by
  intro hnone
  have hmem : ∀ buffer : List UInt8,
      fields.entry (held buffer) ∈ (lineEntry line).toList := by
    intro buffer
    rw [← hindependent.allEntries hline fun _ => buffer, allEntries_same]
    exact List.mem_filterMap.mpr ⟨part, hpart, by rw [hfields]; rfl⟩
  have hempty := Option.mem_toList.mp (hmem [])
  have hfilled := Option.mem_toList.mp (hmem [120])
  have hentry := Option.some.inj (hempty.symm.trans hfilled)
  rw [Fields.entry, Fields.entry, hnone] at hentry
  have hoptions : trim (held []) = trim (held [120]) :=
    congrArg SqlhostsEntry.options hentry
  exact absurd hoptions (by decide)

theorem Independent.regular (hindependent : Independent content) :
    Regular content where
  assigned := fun _ hline _ hpart _ hfields =>
    hindependent.assigned hline hpart hfields
  whole := fun line hline _ => by
    rw [oneCounts_iff, ← hindependent.allEntries hline fun _ => [], allEntries_same]
    rfl
  few := by
    have hparse := hindependent.file _ (fun _ => []) _ (reader_reads content)
    rw [parseSqlhosts_reads (reader_reads content)] at hparse
    rw [← (Prod.mk.inj hparse).2]
    exact List.length_take_le _ _

theorem independent_iff (content : List UInt8) :
    Independent content ↔ Regular content :=
  ⟨Independent.regular, Regular.independent⟩

/-- A line with four fields and no options: "a b c d". -/
def fourFields : List UInt8 := [97, 32, 98, 32, 99, 32, 100, 10]

/-- Its options are what the variable held before. -/
theorem fourFields_leftover : ¬ Independent fourFields := by
  intro hindependent
  have hline : lines newline fourFields = [fourFields] := by
    rw [lines_cons (by decide)]
    have hbehind : behindLine newline fourFields = [] := by decide
    rw [hbehind, lines_nil]
    rfl
  have hparse := hindependent.file _ (fun _ => [120]) _
    (reader_reads fourFields)
  have hparts : lineParts fourFields = [fourFields] :=
    lineParts_short (by decide) (by decide)
  rw [parseSqlhosts_reads (reader_reads fourFields), hline,
    List.flatMap_singleton, hparts] at hparse
  exact absurd (Prod.mk.inj hparse).2 (by decide)

end Libsqli.Sqlhosts
