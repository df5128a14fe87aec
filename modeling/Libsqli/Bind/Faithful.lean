import Libsqli.Bind.ReadBack

namespace Libsqli.Bind

open Libsqli.Data.Bytes
open Libsqli.Wire

/-- The call fails with nothing sent, or the message it builds is read back as
the parameters, each string converted, and nothing but the group end is left. -/
def BindFaithful (malloc : Nat → Bool) (encode : Encoder) (stmt : Statement)
    (terminateGroup : Bool) (wire : Outgoing) : Prop :=
  (∃ status after,
    sendBindIfNeeded malloc encode stmt terminateGroup wire =
        .error status after ∧ after.sent = wire.sent) ∨
  ∃ stmtId fields,
    readBind (buildBindMsg encode stmt terminateGroup) =
      some ((stmtId, fields), if terminateGroup then [0, sqEot] else []) ∧
    List.Forall₂ (Carries fun text bytes => encode text = .ok bytes)
      stmt.params fields

/-- The count fits its 16-bit field, and so does every string. -/
structure Statement.Sendable (encode : Encoder) (stmt : Statement) : Prop where
  count_le : stmt.params.length ≤ 0xFFFF
  strings_fit : ∀ param ∈ stmt.params, param.type = .string →
    param.isNull = false → ∀ text, param.sval = some text →
      ∃ converted, encode text = .ok converted ∧ converted.length ≤ 0xFFFF

/-- There is no room for the message, or the socket takes none of it. -/
def Unsendable (malloc : Nat → Bool) (stmt : Statement)
    (terminateGroup : Bool) (wire : Outgoing) : Prop :=
  stmt.params ≠ [] ∧
    (malloc (estimateBindMsgSize stmt terminateGroup) = false ∨ wire.Refuses)

theorem length_buildBindMsg (encode : Encoder) (stmt : Statement)
    (includeEot : Bool) : 8 ≤ (buildBindMsg encode stmt includeEot).length := by
  simp [buildBindMsg, bindHeader]
  omega

theorem unsent_iff_unsendable (malloc : Nat → Bool) (encode : Encoder)
    (stmt : Statement) (terminateGroup : Bool) (wire : Outgoing) :
    (∃ status after,
      sendBindIfNeeded malloc encode stmt terminateGroup wire =
        .error status after ∧ after.sent = wire.sent) ↔
      Unsendable malloc stmt terminateGroup wire := by
  have hlength := length_buildBindMsg encode stmt terminateGroup
  unfold sendBindIfNeeded Unsendable
  by_cases hparams : stmt.params = []
  · rw [if_pos hparams]
    constructor
    · rintro ⟨status, after, hsend, -⟩
      cases hsend
    · rintro ⟨hne, -⟩
      exact absurd hparams hne
  · rw [if_neg hparams]
    cases hroom : malloc (estimateBindMsgSize stmt terminateGroup) with
    | false => simp [hparams, require]
    | true =>
        rw [if_pos rfl, send_unsent_iff (by omega)]
        simp [hparams]

theorem isLegacyLob_other {param : BoundParam} (hbyte : serverType ≠ typeByte)
    (htext : serverType ≠ typeText) : isLegacyLob serverType param = false := by
  simp [isLegacyLob, isLobColumn, hbyte, htext]

theorem readBind_of_sendable {stmt : Statement}
    (haccepted : ∀ param ∈ stmt.params, param.Accepted)
    (hserver : ∀ serverType ∈ stmt.serverTypes,
      serverType ≠ typeByte ∧ serverType ≠ typeText)
    (hsendable : stmt.Sendable encode) :
    readBind (buildBindMsg encode stmt includeEot) =
      some ((stmt.stmtId.toUInt32.toNat % 256 ^ 2,
          stmt.params.map fun param => param.field encode),
        if includeEot then [0, sqEot] else []) := by
  have htyped : ∀ entry ∈ stmt.typedParams, entry.2.Complete ∧
      isLegacyLob entry.1 entry.2 = false ∧ entry.2.Fits encode := by
    intro entry member
    have hparam := mem_params_of_typed member
    have hcomplete := (haccepted entry.2 hparam).complete
    refine ⟨hcomplete, ?_, ?_⟩
    · rcases typedParams_fst member with hzero | hserved
      · rw [hzero]
        exact isLegacyLob_other (by decide) (by decide)
      · exact isLegacyLob_other (hserver _ hserved).1 (hserver _ hserved).2
    · intro htype hnull
      obtain ⟨text, htext⟩ := hcomplete.string_value htype hnull
      obtain ⟨converted, hconverted, hlength⟩ :=
        hsendable.strings_fit entry.2 hparam htype hnull text htext
      simpa [stringData, htext, sentText, hconverted] using hlength
  exact reads_bind hsendable.count_le htyped _

theorem bindFaithful_of_sendable {stmt : Statement}
    (haccepted : ∀ param ∈ stmt.params, param.Accepted)
    (hserver : ∀ serverType ∈ stmt.serverTypes,
      serverType ≠ typeByte ∧ serverType ≠ typeText)
    (hsendable : stmt.Sendable encode) :
    BindFaithful malloc encode stmt terminateGroup wire := by
  refine .inr ⟨_, _, readBind_of_sendable haccepted hserver hsendable, ?_⟩
  rw [List.forall₂_map_right_iff, List.forall₂_same]
  intro param member
  refine carries_field (haccepted param member).complete ?_
  intro text htype hnull htext
  obtain ⟨converted, hconverted, -⟩ :=
    hsendable.strings_fit param member htype hnull text htext
  simp [sentText, hconverted]

theorem sendable_of_readBind {stmt : Statement}
    (hread : readBind (buildBindMsg encode stmt includeEot) =
      some ((stmtId, fields), rest))
    (hcarries : List.Forall₂ (Carries fun text bytes => encode text = .ok bytes)
      stmt.params fields) :
    stmt.Sendable encode := by
  obtain ⟨hcount, hbounded⟩ := yields_readBind _ _ _ hread
  refine ⟨hcarries.length_eq ▸ hcount, ?_⟩
  intro param member htype hnull text htext
  obtain ⟨field, hfield, hcarried⟩ := exists_of_forall₂ hcarries member
  obtain ⟨value, hvalue⟩ : ∃ value, field.value = some value := by
    apply Option.ne_none_iff_exists'.mp
    intro hnone
    rw [hcarried.null_iff.mp hnone] at hnull
    cases hnull
  cases hcarried.value_carried value hvalue with
  | string _ htext' hconverted =>
      cases htext.symm.trans htext'
      exact ⟨_, hconverted, hbounded field hfield _ hvalue⟩
  | native hother => simp [htype] at hother
  | _ hother => simp [htype] at hother

theorem bindFaithful_iff {stmt : Statement}
    (haccepted : ∀ param ∈ stmt.params, param.Accepted)
    (hserver : ∀ serverType ∈ stmt.serverTypes,
      serverType ≠ typeByte ∧ serverType ≠ typeText)
    (malloc : Nat → Bool) (encode : Encoder) (terminateGroup : Bool)
    (wire : Outgoing) :
    BindFaithful malloc encode stmt terminateGroup wire ↔
      Unsendable malloc stmt terminateGroup wire ∨ stmt.Sendable encode := by
  constructor
  · rintro (hunsent | ⟨stmtId, fields, hread, hcarries⟩)
    · exact .inl ((unsent_iff_unsendable _ _ _ _ _).mp hunsent)
    · exact .inr (sendable_of_readBind hread hcarries)
  · rintro (hunsendable | hsendable)
    · exact .inl ((unsent_iff_unsendable _ _ _ _ _).mpr hunsendable)
    · exact bindFaithful_of_sendable haccepted hserver hsendable

def intParam (value : Int32) : BoundParam :=
  (bindInt value .zeroed).2

def textParam (text : List UInt8) : BoundParam :=
  (setParamString (fun _ => true) text .zeroed).2

def nullParam : BoundParam := (bindNull .int .zeroed).2

def insertStatement (params : List BoundParam) : Statement where
  stmtId := 1
  statementType := 6
  columnCount := 0
  params := params
  serverTypes := []

theorem intParam_accepted (value : Int32) : (intParam value).Accepted :=
  ⟨fun _ => true, .int value, insertStatement [.zeroed], 0,
    insertStatement [intParam value], rfl, rfl⟩

theorem textParam_accepted (text : List UInt8) : (textParam text).Accepted :=
  ⟨fun _ => true, .string text, insertStatement [.zeroed], 0,
    insertStatement [textParam text], rfl, rfl⟩

theorem nullParam_accepted : nullParam.Accepted :=
  ⟨fun _ => true, .nullInt, insertStatement [.zeroed], 0,
    insertStatement [nullParam], rfl, rfl⟩

/-- An integer, a text and a NULL are bound and read back. -/
theorem bindFaithful_iff_insert :
    BindFaithful (fun _ => true) .ok
      (insertStatement [intParam 7, textParam [97, 98, 99], nullParam]) false
      openWire := by
  refine (bindFaithful_iff ?_ ?_ _ _ _ _).mpr (.inr ⟨by decide, ?_⟩)
  · intro param member
    simp only [insertStatement, List.mem_cons, List.not_mem_nil,
      or_false] at member
    rcases member with rfl | rfl | rfl
    · exact intParam_accepted 7
    · exact textParam_accepted [97, 98, 99]
    · exact nullParam_accepted
  · intro serverType member
    exact absurd member List.not_mem_nil
  · intro param member htype hnull text htext
    simp only [insertStatement, List.mem_cons, List.not_mem_nil,
      or_false] at member
    rcases member with rfl | rfl | rfl
    · cases htype
    · cases htext
      exact ⟨[97, 98, 99], rfl, by decide⟩
    · cases hnull

/-- A string of 65536 octets is cut to its first 65535. -/
theorem bind_overlong :
    ¬ ∀ stmt : Statement, (∀ param ∈ stmt.params, param.Accepted) →
      (∀ serverType ∈ stmt.serverTypes,
        serverType ≠ typeByte ∧ serverType ≠ typeText) →
      BindFaithful (fun _ => true) .ok stmt false openWire := by
  intro hfaithful
  have hstring := hfaithful
    (insertStatement [textParam (List.replicate 65536 97)])
    (by
      intro param member
      rw [List.mem_singleton.mp member]
      exact textParam_accepted _)
    (fun _ member => absurd member List.not_mem_nil)
  rcases hstring with hunsent | ⟨stmtId, fields, hread, hcarries⟩
  · rcases (unsent_iff_unsendable _ _ _ _ _).mp hunsent with ⟨-, hroom | hwire⟩
    · cases hroom
    · exact openWire_accepts hwire
  · obtain ⟨converted, hconverted, hlength⟩ :=
      (sendable_of_readBind hread hcarries).strings_fit _
        List.mem_cons_self rfl rfl _ rfl
    cases hconverted
    rw [List.length_replicate] at hlength
    exact absurd hlength (by decide)

end Libsqli.Bind
