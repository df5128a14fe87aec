import Libsqli.Status

namespace Libsqli

/-- What a formatter reaches through its pointers: the caller's buffer, absent
in a size query, and the two outputs beside it. -/
structure FormatOutputs where
  buffer : Option (List UInt8)
  required : Nat
  isNull : Bool
  deriving DecidableEq, Repr

namespace FormatOutputs

variable {out : FormatOutputs} {text buffer : List UInt8}

/-- The outputs of SQL NULL; the buffer stays as it was. -/
def nullOutputs (out : FormatOutputs) : FormatOutputs :=
  { out with required := 0, isNull := true }

/-- The text and its terminator over the start of the buffer. -/
def overwrite (text buffer : List UInt8) : List UInt8 :=
  text ++ 0 :: buffer.drop (text.length + 1)

/-- Announce a text of `length` characters and store it where there is room. -/
def deliver (length : Nat) (text : List UInt8) (out : FormatOutputs) :
    Status × FormatOutputs :=
  match out.buffer with
  | none => (.ok, ⟨none, length + 1, false⟩)
  | some buffer =>
      if buffer.length < length + 1 then
        (.bufferTooSmall, ⟨some buffer, length + 1, false⟩)
      else (.ok, ⟨some (overwrite text buffer), length + 1, false⟩)

theorem deliver_query (hbuffer : out.buffer = none) :
    deliver text.length text out = (.ok, ⟨none, text.length + 1, false⟩) := by
  rw [deliver, hbuffer]

theorem deliver_stored (hbuffer : out.buffer = some buffer)
    (hroom : text.length + 1 ≤ buffer.length) :
    deliver text.length text out =
      (.ok, ⟨some (overwrite text buffer), text.length + 1, false⟩) := by
  rw [deliver, hbuffer]
  simp only [if_neg (Nat.not_lt.mpr hroom)]

end FormatOutputs

/-- A formatter that answers a size query with the size of a text, and stores
the text wherever that size fits. -/
structure Formats (format : FormatOutputs → Status × FormatOutputs)
    (text : List UInt8) : Prop where
  query : ∀ required isNull, format ⟨none, required, isNull⟩ =
    (.ok, ⟨none, text.length + 1, false⟩)
  stores : ∀ buffer required isNull, text.length + 1 ≤ buffer.length →
    format ⟨some buffer, required, isNull⟩ =
      (.ok, ⟨some (FormatOutputs.overwrite text buffer), text.length + 1,
        false⟩)

theorem formats_of_deliver
    {format : FormatOutputs → Status × FormatOutputs} {text : List UInt8}
    (hformat : ∀ out, format out = out.deliver text.length text) :
    Formats format text where
  query := fun _ _ => (hformat _).trans (FormatOutputs.deliver_query rfl)
  stores := fun _ _ _ hroom =>
    (hformat _).trans (FormatOutputs.deliver_stored rfl hroom)

end Libsqli
