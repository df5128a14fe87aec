import Libsqli.Sblob.LobReaders

namespace Libsqli.Sblob

open Libsqli.Data.Bytes
open Libsqli.Data.Program
open Libsqli.Data.Stream
open Libsqli.Octets

variable {remove64k : Bool} {own : List Look} {index rawType : Nat}
  {created : Created}

/-! The reply of a routine. -/

inductive RoutineValue where
  | null
  | integer (value : UInt32)
  | udt (bytes : List UInt8)

def IsInteger (sqltype : Nat) : Prop := sqltype = 2 ∨ sqltype = 6
def IsUdt (sqltype : Nat) : Prop := sqltype = 40 ∨ sqltype = 41 ∨ sqltype = 44

/-- The value is one of the type, and the indicator says whether it is NULL. -/
def RoutineValue.Fits (indicator : UInt16) (sqltype : Nat) :
    RoutineValue → Prop
  | .null =>
      toInt16 indicator.toNat = -1 ∧ (IsInteger sqltype ∨ IsUdt sqltype)
  | .integer _ => toInt16 indicator.toNat ≠ -1 ∧ IsInteger sqltype
  | .udt bytes =>
      toInt16 indicator.toNat ≠ -1 ∧ IsUdt sqltype ∧ bytes.length < 256 ^ 4

def RoutineValue.bytes : RoutineValue → List UInt8
  | .null => []
  | .integer value => bigEndian 4 value.toNat
  | .udt bytes => bigEndian 4 bytes.length ++ padEven bytes

/-- An output parameter. A type may come with the names of its owner and of its
own. -/
structure RoutineParam where
  rawType : UInt16
  owner : List UInt8
  name : List UInt8
  indicator : UInt16
  precision : UInt16
  value : RoutineValue
  howner : owner.length < 65536
  hname : name.length < 65536
  hvalue : value.Fits indicator (rawType.toNat &&& 0xFF)

/-- A distinct type, or none of the built-in ones. -/
def Named (rawType : Nat) : Prop :=
  (18 ≤ rawType &&& 0xFF ∧ rawType &&& 0xFF ≠ 52 ∧ rawType &&& 0xFF ≠ 53) ∨
    rawType &&& 2048 ≠ 0

instance (rawType : Nat) : Decidable (Named rawType) :=
  inferInstanceAs (Decidable ((_ ∧ _) ∨ _))

def nameBytes (text : List UInt8) : List UInt8 :=
  bigEndian 2 text.length ++ padEven text

namespace RoutineParam

def names (param : RoutineParam) : List UInt8 :=
  if Named param.rawType.toNat then
    nameBytes param.owner ++ nameBytes param.name
  else []

def bytes (param : RoutineParam) : List UInt8 :=
  bigEndian 2 param.rawType.toNat ++ (param.names ++
    ((bigEndian 2 param.indicator.toNat ++ bigEndian 2 param.precision.toNat) ++
      param.value.bytes))

/-- What the parameter at `index` is for. -/
def update (index : Nat) (param : RoutineParam) (created : Created) : Created :=
  match param.value with
  | .null => created
  | .integer value =>
      if index = 1 then { created with lofd := toInt32 value.toNat } else created
  | .udt bytes =>
      if index ≠ 0 then created
      else if locatorMax < bytes.length then { created with truncated := true }
      else { created with locator := bytes }

/-- The names, where there are any, need no pads. -/
def EvenNames (param : RoutineParam) : Prop :=
  Named param.rawType.toNat →
    param.owner.length % 2 = 0 ∧ param.name.length % 2 = 0

end RoutineParam

def routineReply (params : List RoutineParam) : List UInt8 :=
  [0, 103] ++ (bigEndian 2 params.length ++
    (params.flatMap RoutineParam.bytes ++ eotBytes))

/-- The descriptor and the locator that the reply reports: an integer that is no
negative number, behind a locator that fits. -/
def reported : List RoutineParam → Option (Int × List UInt8)
  | first :: second :: _ =>
      match first.value, second.value with
      | .udt locator, .integer lofd =>
          if locator.length ≤ locatorMax ∧ 0 ≤ toInt32 lofd.toNat then
            some (toInt32 lofd.toNat, locator)
          else none
      | _, _ => none
  | _ => none

/-- How the call is to end, with all of the reply read and no more. -/
def outcome (params : List RoutineParam) (state : Incoming (List Look)) :
    EStateM.Result Status (Incoming (List Look)) (Int × List UInt8) :=
  match reported params with
  | some result => .ok result state
  | none => .error .err state

/-- Every name and every parameter is read where it stands, and so is the reply. -/
structure InStep (remove64k : Bool) (params : List RoutineParam) : Prop where
  names : ∀ param ∈ params,
    Takes (udtNames param.rawType.toNat) param.names ()
  fields : ∀ index param, params[index]? = some param → ∀ created,
    Takes (outputParam index created) param.bytes (param.update index created)
  whole : ∀ rest own,
    sblobCreateInto remove64k ⟨routineReply params ++ rest, own⟩ =
      outcome params ⟨rest, own⟩

/-! The names. -/

theorem takes_udtName {text : List UInt8} (hlength : text.length < 65536) :
    Takes udtName (bigEndian 2 text.length ++ text) () :=
  (takes_word_bytes hlength).bind (takes_dump rfl)

theorem takes_udtNames_even {owner name : List UInt8}
    (howner : owner.length < 65536) (hname : name.length < 65536)
    (hevenOwner : owner.length % 2 = 0) (hevenName : name.length % 2 = 0) :
    Takes (do udtName; udtName) (nameBytes owner ++ nameBytes name) () := by
  rw [nameBytes, nameBytes, padEven_even hevenOwner, padEven_even hevenName]
  exact (takes_udtName howner).bind (takes_udtName hname)

theorem udtName_all {bytes : List UInt8}
    (hrun : udtName ⟨bytes, own⟩ = .ok () ⟨[], own⟩) :
    bytes.length = 2 + natOfBytes (bytes.take 2) := by
  unfold udtName tcpWord at hrun
  obtain ⟨length, middle, hword, hdump⟩ := bind_eq_ok.mp hrun
  rw [map_apply, tcpRead_eq (by decide)] at hword
  unfold dump at hdump
  rw [map_apply] at hdump
  unfold readExact at hword hdump
  by_cases htwo : 2 ≤ bytes.length
  · rw [if_pos htwo] at hword
    cases hword
    dsimp only at hdump
    by_cases hrest : natOfBytes (bytes.take 2) ≤ (bytes.drop 2).length
    · rw [if_pos hrest] at hdump
      simp only [EStateM.Result.ok.injEq, Incoming.mk.injEq, true_and,
        and_true, List.drop_eq_nil_iff, List.length_drop] at hdump hrest
      omega
    · rw [if_neg hrest] at hdump
      cases hdump
  · rw [if_neg htwo] at hword
    cases hword

theorem natOfBytes_shifted {length : Nat} (hlength : length < 65536)
    (rest : List UInt8) :
    natOfBytes ((0 :: (bigEndian 2 length ++ rest)).take 2) = length / 256 := by
  obtain ⟨high, low, hbytes⟩ :=
    List.length_eq_two.mp (length_bigEndian 2 length)
  have hvalue := @natOfBytes_bigEndian_of_lt 2 length hlength
  have hhigh : natOfBytes [0, high] = high.toNat := by
    simp [natOfBytes, Data.Radix.ofBigEndian_cons]
  have hlow := low.toNat_lt
  rw [hbytes] at hvalue ⊢
  simp only [natOfBytes, Data.Radix.ofBigEndian_cons, List.map_cons,
    List.map_nil, List.length_cons, List.length_nil,
    Data.Radix.ofBigEndian_nil] at hvalue
  change natOfBytes [0, high] = _
  omega

/-- Without the pad of an odd name the next length is read an octet early, and it
then is too small. -/
theorem even_of_takes_udtNames {owner name : List UInt8}
    (howner : owner.length < 65536) (hname : name.length < 65536)
    (htakes : Takes (do udtName; udtName)
      (nameBytes owner ++ nameBytes name) ()) :
    owner.length % 2 = 0 ∧ name.length % 2 = 0 := by
  have hrun := htakes [] []
  have hbytes : nameBytes owner ++ nameBytes name ++ [] =
      bigEndian 2 owner.length ++ owner ++
        (List.replicate (owner.length % 2) 0 ++ nameBytes name) := by
    simp [nameBytes, padEven]
  rw [hbytes, (takes_udtName howner).bind_eq] at hrun
  have hlength := udtName_all hrun
  rcases Nat.mod_two_eq_zero_or_one owner.length with heven | hodd
  · rw [heven, List.replicate_zero, List.nil_append, nameBytes,
      List.take_left' (length_bigEndian _ _),
      natOfBytes_bigEndian_of_lt hname] at hlength
    simp only [List.length_append, length_bigEndian, length_padEven] at hlength
    omega
  · rw [hodd, nameBytes] at hlength
    change _ = 2 + natOfBytes
      ((0 :: (bigEndian 2 name.length ++ padEven name)).take 2) at hlength
    rw [natOfBytes_shifted hname] at hlength
    simp only [List.length_append, length_bigEndian, length_padEven,
      List.length_replicate] at hlength
    omega

theorem udtNames_eq (rawType : Nat) :
    udtNames rawType =
      if Named rawType then do udtName; udtName else pure () := rfl

theorem takes_names_iff (param : RoutineParam) :
    Takes (udtNames param.rawType.toNat) param.names () ↔ param.EvenNames := by
  rw [udtNames_eq, RoutineParam.names, RoutineParam.EvenNames]
  by_cases hnamed : Named param.rawType.toNat
  · rw [if_pos hnamed, if_pos hnamed]
    constructor
    · exact fun htakes _ => even_of_takes_udtNames param.howner param.hname htakes
    · intro heven
      exact takes_udtNames_even param.howner param.hname (heven hnamed).1
        (heven hnamed).2
  · rw [if_neg hnamed, if_neg hnamed]
    exact iff_of_true (Takes.pure ()) fun h => absurd h hnamed

/-! The parameters. -/

theorem takes_indicator (indicator precision : UInt16) :
    Takes (tcpRead 4)
      (bigEndian 2 indicator.toNat ++ bigEndian 2 precision.toNat)
      (bigEndian 2 indicator.toNat ++ bigEndian 2 precision.toNat) :=
  takes_tcpRead (by decide) (by simp)

theorem takes_intParam (index : Nat) (value : UInt32) (created : Created) :
    Takes (intParam index created) (bigEndian 4 value.toNat)
      (if index = 1 then { created with lofd := toInt32 value.toNat }
        else created) := by
  have hint : Takes tcpInt (bigEndian 4 value.toNat)
      (toInt32 (natOfBytes (bigEndian 4 value.toNat))) :=
    (takes_tcpRead (by decide) (length_bigEndian 4 _)).map _
  rw [natOfBytes_bigEndian_of_lt value.toNat_lt] at hint
  exact hint.then (Takes.pure _)

theorem takes_udtValue {bytes : List UInt8} (created : Created)
    (hfirst : index = 0 → bytes ≠ []) :
    Takes (udtValue index bytes.length created) bytes
      (if index ≠ 0 then created
        else if locatorMax < bytes.length then
          { created with truncated := true }
        else { created with locator := bytes }) := by
  unfold udtValue
  by_cases hindex : index ≠ 0
  · rw [if_pos hindex, if_pos hindex]
    exact (takes_dump rfl).map _
  · rw [if_neg hindex, if_neg hindex]
    by_cases hlong : locatorMax < bytes.length
    · rw [if_pos hlong, if_pos hlong]
      exact (takes_dump rfl).map _
    · rw [if_neg hlong, if_neg hlong]
      have hbytes := hfirst (not_not.mp hindex)
      exact (takes_tcpRead (by simpa using hbytes) rfl).map _

theorem takes_udtParam {bytes : List UInt8} (created : Created)
    (hlength : bytes.length < 256 ^ 4) (hfirst : index = 0 → bytes ≠ []) :
    Takes (udtParam index created)
      (bigEndian 4 bytes.length ++ padEven bytes)
      (if index ≠ 0 then created
        else if locatorMax < bytes.length then
          { created with truncated := true }
        else { created with locator := bytes }) := by
  have hcount : Takes (natOfBytes <$> tcpRead 4) (bigEndian 4 bytes.length)
      (natOfBytes (bigEndian 4 bytes.length)) :=
    (takes_tcpRead (by decide) (length_bigEndian 4 _)).map _
  rw [natOfBytes_bigEndian_of_lt hlength] at hcount
  have hpad := takes_dump (List.length_replicate
    (n := bytes.length % 2) (a := (0 : UInt8)))
  exact hcount.bind ((takes_udtValue created hfirst).bind
    (hpad.then (Takes.pure _)))

theorem paramValue_udt {sqltype : Nat} (htype : IsUdt sqltype) :
    paramValue sqltype index created = udtParam index created :=
  if_pos htype

theorem paramValue_integer {sqltype : Nat} (htype : IsInteger sqltype) :
    paramValue sqltype index created = intParam index created := by
  have hudt : ¬ (sqltype = 40 ∨ sqltype = 41 ∨ sqltype = 44) := by
    rcases htype with rfl | rfl <;> decide
  exact (if_neg hudt).trans (if_pos htype)

/-- The parameter brings a value without octets. -/
def RoutineParam.Empty (param : RoutineParam) : Prop := param.value = .udt []

theorem takes_paramValue (param : RoutineParam) (created : Created)
    (hpresent : toInt16 param.indicator.toNat ≠ -1)
    (hfirst : index = 0 → ¬ param.Empty) :
    Takes (paramValue (param.rawType.toNat &&& 0xFF) index created)
      param.value.bytes (param.update index created) := by
  have hfits := param.hvalue
  unfold RoutineParam.update
  unfold RoutineParam.Empty at hfirst
  cases hvalue : param.value with
  | null =>
      rw [hvalue] at hfits
      exact absurd hfits.1 hpresent
  | integer value =>
      rw [hvalue] at hfits
      obtain ⟨-, htype⟩ := hfits
      rw [paramValue_integer htype]
      exact takes_intParam index value created
  | udt bytes =>
      rw [hvalue] at hfits
      obtain ⟨-, htype, hlength⟩ := hfits
      rw [paramValue_udt htype]
      refine takes_udtParam created hlength fun hindex hbytes => ?_
      exact hfirst hindex (by rw [hvalue, hbytes])

theorem takes_outputParam (param : RoutineParam) (created : Created)
    (heven : param.EvenNames) (hfirst : index = 0 → ¬ param.Empty) :
    Takes (outputParam index created) param.bytes
      (param.update index created) := by
  refine (takes_word_bytes param.rawType.toNat_lt).bind ?_
  refine ((takes_names_iff param).mpr heven).bind ?_
  refine (takes_indicator param.indicator param.precision).bind ?_
  rw [List.take_left' (length_bigEndian _ _),
    natOfBytes_bigEndian_of_lt param.indicator.toNat_lt]
  by_cases hnull : toInt16 param.indicator.toNat = -1
  · rw [if_pos hnull]
    have hfits := param.hvalue
    unfold RoutineParam.update
    cases hvalue : param.value with
    | null => exact Takes.pure created
    | integer value =>
        rw [hvalue] at hfits
        exact absurd hnull hfits.1
    | udt bytes =>
        rw [hvalue] at hfits
        exact absurd hnull hfits.1
  · rw [if_neg hnull]
    exact takes_paramValue param created hnull hfirst

/-- A value without octets is not read at all, the read fails. -/
theorem outputParam_empty {param : RoutineParam} (hempty : param.Empty)
    (htakes : Takes (outputParam 0 created) param.bytes
      (param.update 0 created)) (heven : param.EvenNames) : False := by
  have hrun := htakes [] []
  have hfits := param.hvalue
  rw [hempty] at hfits
  obtain ⟨hpresent, htype, -⟩ := hfits
  have hbytes : param.bytes ++ [] =
      bigEndian 2 param.rawType.toNat ++ (param.names ++
        ((bigEndian 2 param.indicator.toNat ++
          bigEndian 2 param.precision.toNat) ++ bigEndian 4 0)) := by
    simp [RoutineParam.bytes, RoutineValue.bytes, show param.value = .udt [] from
      hempty, padEven]
  unfold outputParam at hrun
  rw [hbytes, (takes_word_bytes param.rawType.toNat_lt).bind_eq,
    ((takes_names_iff param).mpr heven).bind_eq,
    (takes_indicator param.indicator param.precision).bind_eq,
    List.take_left' (length_bigEndian _ _),
    natOfBytes_bigEndian_of_lt param.indicator.toNat_lt, if_neg hpresent,
    paramValue_udt htype] at hrun
  cases hrun

/-! The reply. -/

def updates : Nat → List RoutineParam → Created → Created
  | _, [], created => created
  | index, param :: params, created =>
      updates (index + 1) params (param.update index created)

theorem takes_outputParams {params : List RoutineParam} (index : Nat)
    (created : Created) (heven : ∀ param ∈ params, param.EvenNames)
    (hfirst : index = 0 → ∀ param ∈ params.head?, ¬ param.Empty) :
    Takes (outputParams params.length index created)
      (params.flatMap RoutineParam.bytes) (updates index params created) := by
  induction params generalizing index created with
  | nil => exact Takes.pure created
  | cons param params ih =>
      obtain ⟨hparam, hparams⟩ := List.forall_mem_cons.mp heven
      have htakes := takes_outputParam param created hparam
        fun hindex => hfirst hindex param rfl
      exact htakes.bind (ih (index + 1) _ hparams nofun)

/-- From the third one on a parameter has no use. -/
theorem update_behind (param : RoutineParam) (hindex : 2 ≤ index) :
    param.update index created = created := by
  unfold RoutineParam.update
  cases param.value with
  | null => rfl
  | integer value => exact if_neg (by omega)
  | udt bytes => exact if_pos (by omega)

theorem updates_behind (params : List RoutineParam) (hindex : 2 ≤ index) :
    updates index params created = created := by
  induction params generalizing index with
  | nil => rfl
  | cons param params ih =>
      rw [updates, update_behind param hindex]
      exact ih (by omega)

/-- How the call ends with what the parameters say. -/
def finished (created : Created) : Option (Int × List UInt8) :=
  if created.truncated = true ∨ created.lofd < 0 ∨ created.locator = [] then none
  else some (created.lofd, created.locator)

theorem finished_updates {params : List RoutineParam}
    (hfirst : ∀ param ∈ params.head?, ¬ param.Empty) :
    finished (updates 0 params ⟨-1, [], false⟩) = reported params := by
  match params with
  | [] => rfl
  | [first] =>
      simp only [updates, RoutineParam.update, reported]
      cases first.value with
      | null => rfl
      | integer value => rfl
      | udt bytes =>
          by_cases hlong : locatorMax < bytes.length
          · simp [finished, hlong]
          · simp [finished, hlong]
  | first :: second :: rest =>
      have hfirst := hfirst first rfl
      unfold RoutineParam.Empty at hfirst
      rw [updates, updates, updates_behind rest (by decide)]
      simp only [RoutineParam.update, reported]
      cases hvalue : first.value with
      | null => cases second.value <;> simp [finished]
      | integer value => cases second.value <;> simp [finished]
      | udt bytes =>
          have hbytes : bytes ≠ [] := by
            rintro rfl
            exact hfirst hvalue
          by_cases hlong : locatorMax < bytes.length
          · cases second.value <;> simp [finished, hlong]
          · cases second.value with
            | null => simp [finished, hlong]
            | udt others => simp [finished, hlong]
            | integer value =>
                simp only [finished]
                by_cases hsign : 0 ≤ toInt32 value.toNat
                · simp [hlong, hbytes, hsign, Int.not_lt.mpr hsign,
                    Nat.not_lt.mp hlong]
                · simp [hsign, Int.not_le.mp hsign]

theorem finish_eq (created : Created) (state : Incoming (List Look)) :
    (if created.truncated = true ∨ created.lofd < 0 ∨ created.locator = [] then
        throw .err
      else return (created.lofd, created.locator) :
        OctetReader (Int × List UInt8)) state =
      match finished created with
      | some result => .ok result state
      | none => .error .err state := by
  unfold finished
  by_cases hfails : created.truncated = true ∨ created.lofd < 0 ∨
      created.locator = []
  · rw [if_pos hfails, if_pos hfails]
    rfl
  · rw [if_neg hfails, if_neg hfails]
    rfl

theorem takes_createAnswer {params : List RoutineParam}
    (hcount : params.length < 65536)
    (heven : ∀ param ∈ params, param.EvenNames)
    (hfirst : ∀ param ∈ params.head?, ¬ param.Empty) :
    Takes (createAnswer remove64k)
      ([0, 103] ++ (bigEndian 2 params.length ++
        params.flatMap RoutineParam.bytes))
      (updates 0 params ⟨-1, [], false⟩) := by
  have hrest : Takes (do
      expectOpcode remove64k Opcode.fpRoutine (word 0 103)
      let count ← tcpWord
      outputParams count 0 ⟨-1, [], false⟩)
      (bigEndian 2 params.length ++ params.flatMap RoutineParam.bytes)
      (updates 0 params ⟨-1, [], false⟩) :=
    (Takes.pure ()).bind <| (takes_word_bytes hcount).bind
      (takes_outputParams 0 _ heven fun _ => hfirst)
  exact (takes_replyOpcode (by decide) 0).bind hrest

theorem routine_inStep_iff (remove64k : Bool) {params : List RoutineParam}
    (hcount : params.length < 65536) :
    InStep remove64k params ↔
      (∀ param ∈ params, param.EvenNames) ∧
        ∀ param ∈ params.head?, ¬ param.Empty := by
  constructor
  · intro hstep
    have heven : ∀ param ∈ params, param.EvenNames := fun param hmember =>
      (takes_names_iff param).mp (hstep.names param hmember)
    refine ⟨heven, fun param hhead hempty => ?_⟩
    have hfirst : params[0]? = some param := by
      rw [← List.head?_eq_getElem?]
      exact hhead
    exact outputParam_empty hempty (hstep.fields 0 param hfirst ⟨-1, [], false⟩)
      (heven param (List.mem_of_mem_head? hhead))
  · rintro ⟨heven, hfirst⟩
    refine ⟨fun param hmember => ?_, fun index param hindex created => ?_,
      fun rest own => ?_⟩
    · exact (takes_names_iff param).mpr (heven param hmember)
    · refine takes_outputParam param created
        (heven param (List.mem_of_getElem? hindex)) ?_
      rintro rfl
      rw [← List.head?_eq_getElem?] at hindex
      exact hfirst param hindex
    · have hreply : routineReply params ++ rest =
          [0, 103] ++ (bigEndian 2 params.length ++
            params.flatMap RoutineParam.bytes) ++ (eotBytes ++ rest) := by
        simp [routineReply]
      have hdrain : drainTrailing ⟨eotBytes ++ rest, own⟩ = .ok () ⟨rest, own⟩ :=
        drainTrailing_eot (by decide) rest
      unfold sblobCreateInto
      rw [hreply, (takes_createAnswer hcount heven hfirst).bind_eq, bind_apply,
        hdrain]
      dsimp only
      rw [finish_eq, finished_updates hfirst]
      rfl

/-- A CLOB of `owner`, a locator of four octets and descriptor 3. -/
def sampleParams (owner : List UInt8) (howner : owner.length < 65536) :
    List RoutineParam :=
  [{ rawType := 41
     owner := owner
     name := [99, 108, 111, 98]
     indicator := 0
     precision := 0
     value := .udt [1, 2, 3, 4]
     howner := howner
     hname := by decide
     hvalue := ⟨by decide, .inr (.inl rfl), by decide⟩ },
    { rawType := 2
      owner := []
      name := []
      indicator := 0
      precision := 0
      value := .integer 3
      howner := by decide
      hname := by decide
      hvalue := ⟨by decide, .inl rfl⟩ }]

theorem routine_inStep_even :
    InStep false (sampleParams [105, 110, 102, 111] (by decide)) := by
  refine (routine_inStep_iff false (by decide)).mpr ⟨?_, ?_⟩
  · simp [sampleParams, RoutineParam.EvenNames, Named]
  · simp [sampleParams, RoutineParam.Empty]

/-- The owner has three octets; the call fails for want of more. -/
theorem routine_odd_owner :
    ¬ InStep false (sampleParams [106, 111, 101] (by decide)) ∧
      reported (sampleParams [106, 111, 101] (by decide)) =
        some (3, [1, 2, 3, 4]) ∧
      sblobCreateInto false
          ⟨routineReply (sampleParams [106, 111, 101] (by decide)), []⟩ =
        .error .ioError ⟨[], []⟩ := by
  refine ⟨fun hstep => ?_, by decide, rfl⟩
  have heven := (takes_names_iff _).mp (hstep.names _ List.mem_cons_self)
  exact absurd (heven (by decide)).1 (by decide)

end Libsqli.Sblob
