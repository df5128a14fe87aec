import Libsqli.Status

namespace Libsqli.Wire

/-! Conversion of statement text from the client to the database locale. -/

/-- The codeset tables and the converter behind them. `outOfMemory` says
whether the copy of a text cannot be allocated. -/
structure Charset where
  resolveLocale : List UInt8 → Option String
  convertAlloc (target source : String) : List UInt8 → Option (List UInt8)
  outOfMemory : List UInt8 → Bool

structure Session where
  clientLocale : Option (List UInt8)
  dbLocale : Option (List UInt8)
  remove64kLimit : Bool

/-- `none` where the connection has no usable pair of distinct codesets. -/
def Session.codesets (session : Session) (charset : Charset) :
    Option (String × String) := do
  let client ← session.clientLocale
  let db ← session.dbLocale
  if client = [] ∨ db = [] then none
  else
    let source ← charset.resolveLocale client
    let target ← charset.resolveLocale db
    if source.toLower = target.toLower then none else some (target, source)

/-- A text that cannot be converted is sent as it is. -/
def encodeClientToDb (charset : Charset) (session : Session)
    (text : List UInt8) : Except Status (List UInt8) :=
  if charset.outOfMemory text then .error .allocFail
  else match session.codesets charset with
    | none => .ok text
    | some (target, source) =>
        .ok ((charset.convertAlloc target source text).getD text)

end Libsqli.Wire
