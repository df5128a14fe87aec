import Libsqli.Data.Blocks
import Libsqli.Data.Percent
import Libsqli.Data.Span

namespace Libsqli.Uri

open Libsqli.Data
open Libsqli.Data.Blocks
open Libsqli.Data.Span

/-! Texts in buffers, and `url_decode`. -/

/-- The C string that a buffer holds. -/
def held (buffer : List UInt8) : List UInt8 := buffer.takeWhile (· ≠ 0)

/-- `dst[j] = byte`; none is a write outside the destination. -/
def put (dst : List UInt8) (j : Nat) (byte : UInt8) : Option (List UInt8) :=
  if j < dst.length then some (dst.set j byte) else none

/-- The loop of `url_decode` with the terminator behind it. -/
def urlDecodeLoop (s : List UInt8) (j : Nat) (dst : List UInt8) :
    Option (List UInt8) :=
  match s with
  | [] => put dst j 0
  | byte :: rest =>
      if j + 1 < dst.length then
        (put dst j (Percent.step byte rest).1).bind
          (urlDecodeLoop (Percent.step byte rest).2 (j + 1))
      else put dst j 0
termination_by s.length
decreasing_by exact Nat.lt_succ_of_le (Percent.length_step_le byte rest)

/-- `url_decode`; a null pointer is none, the size is that of the destination. -/
def urlDecode (src dst : Option (List UInt8)) :
    Option (Option (List UInt8)) :=
  match src, dst with
  | some s, some dst =>
      if dst = [] then some (some dst) else (urlDecodeLoop s 0 dst).map some
  | none, some dst =>
      if dst = [] then some (some dst) else (put dst 0 0).map some
  | _, none => some none

variable {dst text : List UInt8} {j : Nat}

theorem put_eq (hj : j < dst.length) (byte : UInt8) :
    put dst j byte = some (overwritten dst j [byte]) := by
  rw [put, if_pos hj, overwritten, List.set_eq_take_append_cons_drop, if_pos hj,
    List.append_assoc, List.singleton_append, List.length_singleton]

/-- The loop leaves as much of the decoded text as fits, and a terminator. -/
theorem urlDecodeLoop_eq (s : List UInt8) (hj : j < dst.length) :
    urlDecodeLoop s j dst = some (overwritten dst j
      ((Percent.decode s).take (dst.length - 1 - j) ++ [0])) := by
  induction hlength : s.length using Nat.strong_induction_on
    generalizing s j dst with
  | _ length ih =>
      cases s with
      | nil =>
          rw [urlDecodeLoop, put_eq hj, Percent.decode, List.take_nil,
            List.nil_append]
      | cons byte rest =>
          rw [urlDecodeLoop, Percent.decode_cons]
          by_cases hroom : j + 1 < dst.length
          · obtain ⟨⟨first, behind⟩, hstep⟩ :
                ∃ taken, Percent.step byte rest = taken := ⟨_, rfl⟩
            have hshort : behind.length < length := by
              have hle := Percent.length_step_le byte rest
              rw [hstep] at hle
              rw [← hlength, List.length_cons]
              exact Nat.lt_succ_of_le hle
            have hfits : j + [first].length ≤ dst.length := by
              rw [List.length_singleton]
              omega
            have hsame : (overwritten dst j [first]).length = dst.length :=
              length_overwritten hfits
            have hcount : dst.length - 1 - j =
                (dst.length - 1 - (j + 1)) + 1 := by
              omega
            have hjoined : ∀ more, overwritten (overwritten dst j [first])
                (j + 1) more = overwritten dst j (first :: more) :=
              fun more => overwritten_overwritten hfits
            rw [if_pos hroom, put_eq hj, hstep, Option.bind_some,
              ih _ hshort _ (by rw [hsame]; exact hroom) rfl, hsame, hjoined,
              hcount, List.take_succ_cons, List.cons_append]
          · have hfull : dst.length - 1 - j = 0 := by omega
            rw [if_neg hroom, put_eq hj, hfull, List.take_zero,
              List.nil_append]

theorem urlDecode_some {s : List UInt8} (hsize : dst ≠ []) :
    urlDecode (some s) (some dst) =
      some (some ((Percent.decode s).take (dst.length - 1) ++ 0 ::
        dst.drop (((Percent.decode s).take (dst.length - 1)).length + 1))) := by
  have hpositive : 0 < dst.length := List.length_pos_iff.mpr hsize
  rw [urlDecode, if_neg hsize, urlDecodeLoop_eq s hpositive, Nat.sub_zero,
    overwritten, List.take_zero, List.nil_append, Nat.zero_add,
    List.length_append, List.length_singleton, List.append_assoc,
    List.singleton_append]
  rfl

/-- Nothing outside the destination is written, and the result ends. -/
theorem urlDecode_inside (src : Option (List UInt8)) (dst : List UInt8) :
    ∃ out, urlDecode src (some dst) = some (some out) ∧
      out.length = dst.length ∧ (dst ≠ [] → 0 ∈ out) := by
  by_cases hsize : dst = []
  · subst hsize
    cases src <;> exact ⟨[], rfl, rfl, fun h => absurd rfl h⟩
  · have hpositive : 0 < dst.length := List.length_pos_iff.mpr hsize
    cases src with
    | none =>
        refine ⟨dst.set 0 0, ?_, List.length_set, fun _ => ?_⟩
        · rw [urlDecode, if_neg hsize, put, if_pos hpositive]
          rfl
        · exact List.mem_set hpositive 0
    | some s =>
        refine ⟨_, urlDecode_some hsize, ?_, fun _ => ?_⟩
        · simp only [List.length_append, List.length_take, List.length_cons,
            List.length_drop]
          omega
        · exact List.mem_append_right _ List.mem_cons_self

theorem held_terminated (text rest : List UInt8) :
    held (text ++ 0 :: rest) = held text := by
  unfold held
  induction text with
  | nil => rfl
  | cons byte text ih =>
      by_cases hbyte : byte = 0
      · subst hbyte
        rfl
      · rw [List.cons_append, List.takeWhile_cons_of_pos (by simpa using hbyte),
          List.takeWhile_cons_of_pos (by simpa using hbyte), ih]

theorem held_of_not_mem (htext : 0 ∉ text) : held text = text :=
  takeWhile_all (ne_of_not_mem htext)

/-- The C string that `url_decode` leaves in a destination of some size. -/
def decodedText (size : Nat) (s : List UInt8) : List UInt8 :=
  held ((Percent.decode s).take (size - 1))

theorem urlDecode_text {s : List UInt8} (hsize : dst ≠ []) :
    ∃ out, urlDecode (some s) (some dst) = some (some out) ∧
      held out = decodedText dst.length s :=
  ⟨_, urlDecode_some hsize, held_terminated _ _⟩

theorem urlDecode_encode (encoding : Percent.Encoding) (htext : 0 ∉ text)
    (hfits : text.length < dst.length) :
    ∃ out, urlDecode (some (encoding.encode text)) (some dst) =
        some (some out) ∧ held out = text := by
  have hsize : dst ≠ [] := List.length_pos_iff.mp (by omega)
  obtain ⟨out, hout, hheld⟩ := urlDecode_text hsize
  refine ⟨out, hout, ?_⟩
  rw [hheld, decodedText, encoding.decode_encode,
    List.take_of_length_le (by omega), held_of_not_mem htext]

end Libsqli.Uri
