import Mathlib.Data.List.Basic
import Mathlib.Tactic.Common

namespace Libsqli.Data.Lines

/-! A text as lines that keep their end mark, read in pieces of limited size. -/

variable {α : Type} {text : List α} {size : Nat}

def chunks (size : Nat) (line : List α) : List (List α) :=
  if _hopen : 0 < size ∧ line ≠ [] then
    line.take size :: chunks size (line.drop size)
  else []
termination_by line.length
decreasing_by
  have hpositive := List.length_pos_iff.mpr _hopen.2
  rw [List.length_drop]
  omega

theorem chunks_nil (size : Nat) : chunks size ([] : List α) = [] := by
  rw [chunks, dif_neg fun h => h.2 rfl]

theorem chunks_cons (hsize : 0 < size) (htext : text ≠ []) :
    chunks size text = text.take size :: chunks size (text.drop size) := by
  rw [chunks, dif_pos ⟨hsize, htext⟩]

theorem chunks_short (hsize : 0 < size) (htext : text ≠ [])
    (hshort : text.length ≤ size) : chunks size text = [text] := by
  rw [chunks_cons hsize htext, List.take_of_length_le hshort,
    List.drop_of_length_le hshort, chunks_nil]

variable [DecidableEq α] {mark : α}

/-- Up to the first mark, which is part of it. -/
def firstLine (mark : α) : List α → List α
  | [] => []
  | value :: rest =>
      if value = mark then [value] else value :: firstLine mark rest

def behindLine (mark : α) : List α → List α
  | [] => []
  | value :: rest => if value = mark then rest else behindLine mark rest

theorem firstLine_append_behindLine (mark : α) (text : List α) :
    firstLine mark text ++ behindLine mark text = text := by
  induction text with
  | nil => rfl
  | cons value rest ih =>
      rw [firstLine, behindLine]
      split
      · rfl
      · rw [List.cons_append, ih]

theorem firstLine_ne_nil (mark : α) (htext : text ≠ []) : firstLine mark text ≠ [] := by
  cases text with
  | nil => exact absurd rfl htext
  | cons value rest =>
      rw [firstLine]
      split <;> exact List.cons_ne_nil _ _

theorem length_behindLine_lt (htext : text ≠ []) :
    (behindLine mark text).length < text.length := by
  have hwhole := congrArg List.length (firstLine_append_behindLine mark text)
  have hfirst := List.length_pos_iff.mpr (firstLine_ne_nil mark htext)
  rw [List.length_append] at hwhole
  omega

def lines (mark : α) (text : List α) : List (List α) :=
  if _htext : text = [] then []
  else firstLine mark text :: lines mark (behindLine mark text)
termination_by text.length
decreasing_by exact length_behindLine_lt _htext

/-- What one read of at most `size` elements takes. -/
def piece (mark : α) (size : Nat) (text : List α) : List α :=
  (firstLine mark text).take size

theorem length_drop_piece_lt (hsize : 0 < size) (htext : text ≠ []) :
    (text.drop (piece mark size text).length).length < text.length := by
  have hfirst := List.length_pos_iff.mpr (firstLine_ne_nil mark htext)
  have hpositive := List.length_pos_iff.mpr htext
  rw [piece, List.length_drop, List.length_take]
  omega

def pieces (mark : α) (size : Nat) (text : List α) : List (List α) :=
  if _hopen : 0 < size ∧ text ≠ [] then
    piece mark size text ::
      pieces mark size (text.drop (piece mark size text).length)
  else []
termination_by text.length
decreasing_by exact length_drop_piece_lt _hopen.1 _hopen.2

theorem piece_append_drop (mark : α) (size : Nat) (text : List α) :
    piece mark size text ++ text.drop (piece mark size text).length = text := by
  have hpiece : piece mark size text <+: firstLine mark text :=
    List.take_prefix _ _
  have hline : firstLine mark text <+: text :=
    ⟨behindLine mark text, firstLine_append_behindLine mark text⟩
  exact List.prefix_iff_eq_append.mp (hpiece.trans hline)

/-- The reads bring the text. -/
theorem flatten_pieces (mark : α) (hsize : 0 < size) (text : List α) :
    (pieces mark size text).flatten = text := by
  fun_induction pieces mark size text with
  | case1 text hopen ih =>
      rw [List.flatten_cons, ih, piece_append_drop]
  | case2 text hclosed =>
      by_contra htext
      exact hclosed ⟨hsize, fun h => htext h.symm⟩

theorem lines_nil (mark : α) : lines mark [] = [] := by
  rw [lines, dif_pos rfl]

theorem lines_cons (htext : text ≠ []) :
    lines mark text = firstLine mark text :: lines mark (behindLine mark text) := by
  rw [lines, dif_neg htext]

/-- A read that ends inside a line leaves the rest of this line. -/
theorem firstLine_drop {count : Nat}
    (hcount : count < (firstLine mark text).length) :
    firstLine mark (text.drop count) = (firstLine mark text).drop count ∧
      behindLine mark (text.drop count) = behindLine mark text := by
  induction text generalizing count with
  | nil => exact absurd hcount (Nat.not_lt_zero _)
  | cons value rest ih =>
      cases count with
      | zero => exact ⟨rfl, rfl⟩
      | succ count =>
          rw [firstLine] at hcount ⊢
          rw [behindLine]
          by_cases hvalue : value = mark
          · rw [if_pos hvalue, List.length_singleton] at hcount
            omega
          · rw [if_neg hvalue, List.length_cons] at hcount
            rw [if_neg hvalue, if_neg hvalue]
            exact ih (Nat.lt_of_succ_lt_succ hcount)

theorem drop_firstLine (mark : α) (text : List α) :
    text.drop (firstLine mark text).length = behindLine mark text := by
  have hwhole := firstLine_append_behindLine mark text
  calc text.drop (firstLine mark text).length
      = (firstLine mark text ++ behindLine mark text).drop
          (firstLine mark text).length := by rw [hwhole]
    _ = behindLine mark text := List.drop_left

/-- Limited reads cut every line for itself. -/
theorem pieces_eq (mark : α) (hsize : 0 < size) (text : List α) :
    pieces mark size text = (lines mark text).flatMap (chunks size) := by
  fun_induction pieces mark size text with
  | case1 text hopen ih =>
      have hline := firstLine_ne_nil mark hopen.2
      rw [lines_cons hopen.2, List.flatMap_cons, chunks_cons hsize hline,
        List.cons_append, ih]
      congr 1
      by_cases hlong : size < (firstLine mark text).length
      · obtain ⟨hfirst, hbehind⟩ := firstLine_drop hlong
        have hlength : (piece mark size text).length = size :=
          List.length_take_of_le (Nat.le_of_lt hlong)
        have hrest : text.drop size ≠ [] := fun h => by
          have hwhole := congrArg List.length
            (firstLine_append_behindLine mark text)
          rw [List.drop_eq_nil_iff] at h
          rw [List.length_append] at hwhole
          omega
        rw [hlength, lines_cons hrest, hfirst, hbehind, List.flatMap_cons]
      · have hshort := Nat.le_of_not_lt hlong
        have hpiece : piece mark size text = firstLine mark text :=
          List.take_of_length_le hshort
        rw [hpiece, drop_firstLine, List.drop_of_length_le hshort, chunks_nil,
          List.nil_append]
  | case2 text hclosed =>
      have hnil : text = [] := by
        by_contra htext
        exact hclosed ⟨hsize, htext⟩
      rw [hnil, lines_nil, List.flatMap_nil]

theorem ne_nil_of_mem_lines {line : List α} (hline : line ∈ lines mark text) :
    line ≠ [] := by
  fun_induction lines mark text with
  | case1 => cases hline
  | case2 text htext ih =>
      rcases List.mem_cons.mp hline with rfl | hline
      · exact firstLine_ne_nil mark htext
      · exact ih hline

theorem lines_firstLine (htext : text ≠ []) :
    lines mark (firstLine mark text) = [firstLine mark text] := by
  have hfirst : ∀ text : List α,
      firstLine mark (firstLine mark text) = firstLine mark text ∧
        behindLine mark (firstLine mark text) = [] := by
    intro text
    induction text with
    | nil => exact ⟨rfl, rfl⟩
    | cons value rest ih =>
        by_cases hvalue : value = mark
        · rw [firstLine, if_pos hvalue, firstLine, if_pos hvalue, behindLine,
            if_pos hvalue]
          exact ⟨rfl, rfl⟩
        · rw [firstLine, if_neg hvalue, firstLine, if_neg hvalue, behindLine,
            if_neg hvalue, ih.1]
          exact ⟨rfl, ih.2⟩
  obtain ⟨hsame, hnone⟩ := hfirst text
  rw [lines_cons (firstLine_ne_nil mark htext), hsame, hnone, lines_nil]

theorem lines_of_mem {line : List α} (hline : line ∈ lines mark text) :
    lines mark line = [line] := by
  fun_induction lines mark text with
  | case1 => cases hline
  | case2 text htext ih =>
      rcases List.mem_cons.mp hline with rfl | hline
      · exact lines_firstLine htext
      · exact ih hline

theorem firstLine_append {row : List α} (hrow : mark ∉ row) (rest : List α) :
    firstLine mark (row ++ mark :: rest) = row ++ [mark] ∧
      behindLine mark (row ++ mark :: rest) = rest := by
  induction row with
  | nil => exact ⟨if_pos rfl, if_pos rfl⟩
  | cons value row ih =>
      rw [List.mem_cons, not_or] at hrow
      obtain ⟨hfirst, hbehind⟩ := ih hrow.2
      rw [List.cons_append, firstLine, behindLine, if_neg (Ne.symm hrow.1),
        if_neg (Ne.symm hrow.1), hfirst, hbehind]
      exact ⟨rfl, rfl⟩

theorem lines_rows {rows : List (List α)} (hrows : ∀ row ∈ rows, mark ∉ row) :
    lines mark (rows.flatMap (· ++ [mark])) = rows.map (· ++ [mark]) := by
  induction rows with
  | nil => exact lines_nil mark
  | cons row rows ih =>
      obtain ⟨hfirst, hbehind⟩ := firstLine_append
        (hrows row List.mem_cons_self) (rows.flatMap (· ++ [mark]))
      rw [List.flatMap_cons, List.append_assoc, List.singleton_append,
        lines_cons (by simp), hfirst, hbehind,
        ih fun other hother => hrows other (List.mem_cons_of_mem _ hother)]
      rfl

/-- Rows that a read can hold come one by one. -/
theorem pieces_rows {rows : List (List α)}
    (hrows : ∀ row ∈ rows, mark ∉ row ∧ row.length < size) :
    pieces mark size (rows.flatMap (· ++ [mark])) = rows.map (· ++ [mark]) := by
  cases rows with
  | nil => rw [List.flatMap_nil, pieces, dif_neg (fun h => h.2 rfl), List.map_nil]
  | cons first others =>
      have hsize : 0 < size := Nat.lt_of_le_of_lt (Nat.zero_le _)
        (hrows first List.mem_cons_self).2
      rw [pieces_eq mark hsize, lines_rows fun row hrow => (hrows row hrow).1]
      generalize first :: others = rows at hrows
      induction rows with
      | nil => rfl
      | cons row rows ih =>
          have hshort := (hrows row List.mem_cons_self).2
          rw [List.map_cons, List.flatMap_cons,
            ih fun other hother => hrows other (List.mem_cons_of_mem _ hother),
            chunks_short hsize (by simp) (by simp; omega)]
          rfl

end Libsqli.Data.Lines
