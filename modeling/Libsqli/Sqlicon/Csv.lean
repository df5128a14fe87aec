import Libsqli.Data.Lines
import Libsqli.Data.Quoting
import Libsqli.Sqlicon.Text

namespace Libsqli.Sqlicon

open Libsqli.Data.Ctype
open Libsqli.Data.Lines
open Libsqli.Data.Quoting
open Libsqli.Uri (held)

/-! `print_csv_value`, `print_csv_mode` -/

/-- The octets for which a value is put in quotes. -/
def needQuote (s : List UInt8) : Bool :=
  s.any fun c => c == comma || c == doubleQuote || c == newline || c == 13

def printCsvValue (s : List UInt8) : List UInt8 :=
  if needQuote s then quote doubleQuote s else s

def printCsvRow : List (List UInt8) → List UInt8
  | [] => []
  | [cell] => printCsvValue cell
  | cell :: next :: rest =>
      printCsvValue cell ++ comma :: printCsvRow (next :: rest)

/-- `print_csv_mode`, by `rt->headers` and what `sqlicon_table_buffer` holds. -/
def printCsvMode (headers : Bool) (colNames : List (List UInt8))
    (rows : List (List (List UInt8))) : List UInt8 :=
  (if headers then printCsvRow colNames ++ [newline] else []) ++
    rows.flatMap fun cells => printCsvRow cells ++ [newline]

/-! `parse_csv_fields` -/

/-- The loop over the characters of a field: its text and what is left, or
none if the line ends in quotes. -/
def fieldLoop : Bool → List UInt8 → Option (List UInt8 × List UInt8)
  | false, [] => some ([], [])
  | true, [] => none
  | false, ch :: rest =>
      if ch = comma then some ([], ch :: rest)
      else (fieldLoop false rest).map fun (buf, left) => (ch :: buf, left)
  | true, [ch] => if ch = doubleQuote then some ([], []) else none
  | true, ch :: next :: rest =>
      if ch = doubleQuote then
        if next = doubleQuote then
          (fieldLoop true rest).map fun (buf, left) => (ch :: buf, left)
        else fieldLoop false (next :: rest)
      else
        (fieldLoop true (next :: rest)).map fun (buf, left) => (ch :: buf, left)

/-- A field behind a comma or the beginning of the line. -/
def parseCsvField (line : List UInt8) : Option (List UInt8 × List UInt8) :=
  if line.head? = some doubleQuote then fieldLoop true line.tail
  else fieldLoop false line

variable {line left buf rest text : List UInt8} {quoted : Bool}

theorem fieldLoop_length (hloop : fieldLoop quoted line = some (buf, left)) :
    left.length ≤ line.length := by
  fun_induction fieldLoop quoted line generalizing buf with
  | case1 | case5 =>
      cases hloop
      exact Nat.zero_le _
  | case2 | case6 => cases hloop
  | case3 rest =>
      cases hloop
      exact Nat.le_refl _
  | case4 ch rest hch ih =>
      obtain ⟨⟨inner, later⟩, hinner, heq⟩ := Option.map_eq_some_iff.mp hloop
      cases heq
      exact Nat.le_succ_of_le (ih hinner)
  | case7 rest ih =>
      obtain ⟨⟨inner, later⟩, hinner, heq⟩ := Option.map_eq_some_iff.mp hloop
      cases heq
      exact Nat.le_succ_of_le (Nat.le_succ_of_le (ih hinner))
  | case8 next rest hnext ih => exact Nat.le_succ_of_le (ih hloop)
  | case9 ch next rest hch ih =>
      obtain ⟨⟨inner, later⟩, hinner, heq⟩ := Option.map_eq_some_iff.mp hloop
      cases heq
      exact Nat.le_succ_of_le (ih hinner)

theorem parseCsvField_length
    (hparse : parseCsvField line = some (buf, left)) :
    left.length ≤ line.length := by
  rw [parseCsvField] at hparse
  split at hparse
  · exact (fieldLoop_length hparse).trans (by simp)
  · exact fieldLoop_length hparse

def parseCsvFields (line : List UInt8) : Option (List (List UInt8)) :=
  match _hfield : parseCsvField line with
  | none => none
  | some (field, []) => some [field]
  | some (field, _ :: rest) => (parseCsvFields rest).map (field :: ·)
termination_by line.length
decreasing_by exact parseCsvField_length _hfield

/-! Reading back what was printed. -/

/-- A field ends here: the line does, or a comma follows. -/
def EndsField (rest : List UInt8) : Prop :=
  ∀ c, rest.head? = some c → c = comma

theorem fieldLoop_plain (htext : comma ∉ text) (hrest : EndsField rest) :
    fieldLoop false (text ++ rest) = some (text, rest) := by
  induction text with
  | nil =>
      cases rest with
      | nil => rfl
      | cons c rest => rw [List.nil_append, fieldLoop, if_pos (hrest c rfl)]
  | cons ch text ih =>
      rw [List.mem_cons, not_or] at htext
      rw [List.cons_append, fieldLoop, if_neg (Ne.symm htext.1), ih htext.2]
      rfl

/-- Behind the closing quote the loop goes on as outside of quotes. -/
theorem fieldLoop_unquote (hread : unquote doubleQuote line = some (text, left)) :
    fieldLoop true line =
      (fieldLoop false left).map fun (buf, behind) => (text ++ buf, behind) := by
  fun_induction unquote doubleQuote line generalizing text with
  | case1 => cases hread
  | case2 =>
      cases hread
      rfl
  | case3 c hc => cases hread
  | case4 rest ih =>
      obtain ⟨⟨inner, behind⟩, hinner, heq⟩ := Option.map_eq_some_iff.mp hread
      cases heq
      rw [fieldLoop, if_pos rfl, if_pos rfl, ih hinner, Option.map_map]
      rfl
  | case5 d rest hd =>
      cases hread
      conv_lhs => rw [fieldLoop, if_pos rfl, if_neg hd]
      simp
  | case6 c d rest hc ih =>
      obtain ⟨⟨inner, behind⟩, hinner, heq⟩ := Option.map_eq_some_iff.mp hread
      cases heq
      rw [fieldLoop, if_neg hc, ih hinner, Option.map_map]
      rfl

theorem needQuote_false (hneed : needQuote text = false) :
    comma ∉ text ∧ doubleQuote ∉ text ∧ newline ∉ text := by
  rw [needQuote, List.any_eq_false] at hneed
  refine ⟨fun h => ?_, fun h => ?_, fun h => ?_⟩ <;>
    exact absurd (hneed _ h) (by decide)

theorem parseCsvField_printed (text : List UInt8) (hrest : EndsField rest) :
    parseCsvField (printCsvValue text ++ rest) = some (text, rest) := by
  have hquote : rest.head? ≠ some doubleQuote := fun h =>
    absurd (hrest _ h) (by decide)
  rw [printCsvValue]
  split
  · rw [quote, List.cons_append, List.append_assoc, parseCsvField,
      if_pos List.head?_cons, List.tail_cons, List.singleton_append,
      fieldLoop_unquote (unquote_double hquote text)]
    have hnone : ([] : List UInt8) ++ rest = rest := rfl
    rw [← hnone, fieldLoop_plain (by simp) hrest]
    simp
  · next hneed =>
      obtain ⟨hcomma, hnot, -⟩ := needQuote_false (Bool.eq_false_iff.mpr hneed)
      have hhead : (text ++ rest).head? ≠ some doubleQuote := by
        cases text with
        | nil => exact hquote
        | cons c text =>
            intro h
            cases h
            exact hnot List.mem_cons_self
      rw [parseCsvField, if_neg hhead]
      exact fieldLoop_plain hcomma hrest

theorem parseCsvFields_last {field : List UInt8}
    (hfield : parseCsvField line = some (field, [])) :
    parseCsvFields line = some [field] := by
  rw [parseCsvFields]
  split
  · next hnone => rw [hfield] at hnone; cases hnone
  · next hsome => rw [hfield] at hsome; cases hsome; rfl
  · next hsome => rw [hfield] at hsome; cases hsome

theorem parseCsvFields_more {field : List UInt8} {c : UInt8}
    (hfield : parseCsvField line = some (field, c :: rest)) :
    parseCsvFields line = (parseCsvFields rest).map (field :: ·) := by
  rw [parseCsvFields]
  split
  · next hnone => rw [hfield] at hnone; cases hnone
  · next hsome => rw [hfield] at hsome; cases hsome
  · next hsome => rw [hfield] at hsome; cases hsome; rfl

theorem endsField_nil : EndsField [] := by
  intro c hc
  cases hc

theorem endsField_comma (rest : List UInt8) : EndsField (comma :: rest) := by
  intro c hc
  cases hc
  rfl

/-- A row of at least one cell is read as it was. -/
theorem parseCsvFields_printed {cells : List (List UInt8)} (hcells : cells ≠ []) :
    parseCsvFields (printCsvRow cells) = some cells := by
  induction cells with
  | nil => exact absurd rfl hcells
  | cons cell others ih =>
      cases others with
      | nil =>
          have hfield := parseCsvField_printed cell endsField_nil
          rw [List.append_nil] at hfield
          exact parseCsvFields_last hfield
      | cons next others =>
          have hfield := parseCsvField_printed cell
            (endsField_comma (printCsvRow (next :: others)))
          rw [printCsvRow, parseCsvFields_more hfield,
            ih (List.cons_ne_nil _ _)]
          rfl

/-! The lines that `command_import_csv` reads of a file. -/

/-- `fgets` and `strip_trailing_inplace`, until the file ends. -/
def csvReads (content : List UInt8) : List (List UInt8) :=
  (pieces newline 65535 content).map fun buf => stripTrailing (held buf)

/-- A row whose line comes back as it is: not empty, in one read, and with no
white space at its end. -/
structure Portable (cells : List (List UInt8)) : Prop where
  filled : printCsvRow cells ≠ []
  plain : ∀ cell ∈ cells, newline ∉ cell ∧ 0 ∉ cell
  ends : ∀ c, (printCsvRow cells).getLast? = some c → isSpaceChar c = false
  short : (printCsvRow cells).length < 65535

theorem mem_printCsvValue {c : UInt8} (hc : c ∈ printCsvValue text) :
    c ∈ text ∨ c = doubleQuote := by
  rw [printCsvValue] at hc
  split at hc
  · rw [quote, List.mem_cons, List.mem_append, mem_double,
      List.mem_singleton] at hc
    tauto
  · exact .inl hc

theorem mem_printCsvRow {cells : List (List UInt8)} {c : UInt8}
    (hc : c ∈ printCsvRow cells) :
    (∃ cell ∈ cells, c ∈ cell) ∨ c = doubleQuote ∨ c = comma := by
  induction cells with
  | nil => cases hc
  | cons cell others ih =>
      cases others with
      | nil =>
          rcases mem_printCsvValue hc with hcell | hquote
          · exact .inl ⟨cell, List.mem_cons_self, hcell⟩
          · exact .inr (.inl hquote)
      | cons next others =>
          rw [printCsvRow, List.mem_append, List.mem_cons] at hc
          rcases hc with hc | hcomma | hc
          · rcases mem_printCsvValue hc with hcell | hquote
            · exact .inl ⟨cell, List.mem_cons_self, hcell⟩
            · exact .inr (.inl hquote)
          · exact .inr (.inr hcomma)
          · rcases ih hc with ⟨other, hother, hmem⟩ | hmark
            · exact .inl ⟨other, List.mem_cons_of_mem _ hother, hmem⟩
            · exact .inr hmark

namespace Portable

variable {cells : List (List UInt8)} (hportable : Portable cells)

include hportable

theorem not_mem {c : UInt8} (hc : c = newline ∨ c = 0) :
    c ∉ printCsvRow cells := by
  intro hmem
  rcases mem_printCsvRow hmem with ⟨cell, hcell, hmem⟩ | rfl | rfl
  · obtain ⟨hnewline, hnul⟩ := hportable.plain cell hcell
    rcases hc with rfl | rfl
    · exact hnewline hmem
    · exact hnul hmem
  · exact absurd hc (by decide)
  · exact absurd hc (by decide)

theorem stripTrailing_line :
    stripTrailing (held (printCsvRow cells ++ [newline])) =
      printCsvRow cells := by
  have hnul : 0 ∉ printCsvRow cells ++ [newline] := by
    rw [List.mem_append, List.mem_singleton]
    rintro (hmem | hnewline)
    · exact hportable.not_mem (.inr rfl) hmem
    · exact absurd hnewline (by decide)
  rw [Uri.held_of_not_mem hnul, stripTrailing, List.rdropWhile_concat_pos _ _ _ rfl,
    List.rdropWhile_eq_self_iff]
  intro hfilled hspace
  have hlast := hportable.ends _ (List.getLast?_eq_getLast_of_ne_nil hfilled)
  exact absurd hspace (by rw [hlast]; decide)

end Portable

/-- What was printed with the names of the columns is read line by line. -/
theorem csvReads_printed {colNames : List (List UInt8)}
    {rows : List (List (List UInt8))} (hnames : Portable colNames)
    (hrows : ∀ cells ∈ rows, Portable cells) :
    csvReads (printCsvMode true colNames rows) =
      printCsvRow colNames :: rows.map printCsvRow := by
  have hall : ∀ cells ∈ colNames :: rows, Portable cells := by
    intro cells hcells
    rcases List.mem_cons.mp hcells with rfl | hmem
    · exact hnames
    · exact hrows cells hmem
  have hcontent : printCsvMode true colNames rows =
      ((colNames :: rows).map printCsvRow).flatMap (· ++ [newline]) := by
    rw [printCsvMode, if_pos rfl, List.map_cons, List.flatMap_cons,
      List.flatMap_map]
  have hshort : ∀ line ∈ (colNames :: rows).map printCsvRow,
      newline ∉ line ∧ line.length < 65535 := by
    intro line hline
    obtain ⟨cells, hcells, rfl⟩ := List.mem_map.mp hline
    exact ⟨(hall cells hcells).not_mem (.inl rfl), (hall cells hcells).short⟩
  rw [csvReads, hcontent, pieces_rows hshort, List.map_map, List.map_map,
    ← List.map_cons]
  exact List.map_congr_left fun cells hcells =>
    (hall cells hcells).stripTrailing_line

end Libsqli.Sqlicon
