import Libsqli.Result.Chunks
import Libsqli.Result.Getters
import Mathlib.Data.Nat.Nth

namespace Libsqli.Callable

open Libsqli.Result (Cell Services Floats getInt64 getDouble fetch twoIntegers
  unowned noServices)

/-! Callable statements. -/

/-- `sqli_call_param_mode` -/
inductive ParamMode where
  | input
  | output
  | inout
  deriving DecidableEq, Repr

/-- The values of the enumeration in an `int`. -/
def ParamMode.ofInt? (mode : Int) : Option ParamMode :=
  if mode = 0 then some .input
  else if mode = 1 then some .output
  else if mode = 2 then some .inout
  else none

def ParamMode.isOutput : ParamMode → Bool
  | .input => false
  | .output | .inout => true

/-- The part of a statement that shows its result. -/
structure Statement where
  result : Result
  resultValid : Bool

/-- `sqli_stmt_result` -/
def Statement.shown (stmt : Statement) : Option Result :=
  if stmt.resultValid then some stmt.result else none

/-- `struct sqli_call`; there is no array of modes without parameters. -/
structure Call where
  stmt : Statement
  paramCount : Int
  modes : Option (List ParamMode)
  outRowReady : Bool

/-- `sqli_call_validate_index` -/
def validateIndex (call : Option Call) (index : Nat) : Status :=
  match call with
  | none => .invalidArgument
  | some call =>
      if call.paramCount < 0 ∨ call.paramCount ≤ index then .outOfRange
      else if call.modes = none then .invalidState
      else .ok

/-- The loop of `sqli_call_param_to_out_col` over the modes from `i` on. -/
def outColLoop (index : Nat) : List ParamMode → Nat → Nat → Option Nat
  | [], _, _ => none
  | mode :: modes, i, outCol =>
      if mode.isOutput then
        if i = index then some outCol
        else outColLoop index modes (i + 1) (outCol + 1)
      else outColLoop index modes (i + 1) outCol

/-- The modes the loops run over. -/
def Call.counted (call : Call) : List ParamMode :=
  (call.modes.getD []).take call.paramCount.toNat

/-- `sqli_call_param_to_out_col`, with what its output holds before and after. -/
def paramToOutCol (call : Option Call) (index : Nat) (out : Option Int) :
    Status × Option Int :=
  match call, validateIndex call index with
  | some call, .ok =>
      match out with
      | none => (.invalidArgument, none)
      | some _ =>
          match outColLoop index call.counted 0 0 with
          | some outCol => (.ok, some outCol)
          | none => (.invalidState, out)
  | _, status => (status, out)

/-- The end of `sqli_call_prepare`. -/
def callPrepare (nparams : Int) (stmt : Statement) : Call where
  stmt := stmt
  paramCount := nparams
  modes := if 0 < nparams then some (List.replicate nparams.toNat .input)
    else none
  outRowReady := false

/-- `sqli_call_set_param_mode` -/
def setParamMode (call : Option Call) (index : Nat) (mode : Int) :
    Status × Option Call :=
  match ParamMode.ofInt? mode with
  | none => (.invalidState, call)
  | some mode =>
      match call, validateIndex call index with
      | some call, .ok =>
          (.ok, some { call with modes := call.modes.map (·.set index mode) })
      | _, status => (status, call)

/-- What `sqli_execute` does to the statement. -/
abbrev Execution := Statement → Status × Statement

/-- `sqli_call_execute` once the statement was executed. -/
def fetchOutput (setting : Setting) (call : Call) : Status × Call :=
  if call.counted.any ParamMode.isOutput = false then (.ok, call)
  else
    match call.stmt.shown with
    | none => (.ok, call)
    | some result =>
        match fetch setting result with
        | (rc, fetched) =>
            (if rc = .eof then .ok else rc,
              { call with
                stmt := { call.stmt with result := fetched }
                outRowReady := rc == .ok })

/-- `sqli_call_execute` -/
def callExecute (execute : Execution) (setting : Setting) (call : Call) :
    Status × Call :=
  match execute call.stmt with
  | (.ok, stmt) => fetchOutput setting { call with stmt, outRowReady := false }
  | (rc, stmt) => (rc, { call with stmt, outRowReady := false })

/-- The common part of the getters of output parameters. -/
def readOutput (call : Option Call) (index : Nat) (out : α)
    (read : Result → Nat → Status × α) : Status × α :=
  match call with
  | none => (.invalidState, out)
  | some call =>
      if call.outRowReady = false then (.invalidState, out)
      else
        match paramToOutCol (some call) index (some (-1)) with
        | (.ok, some col) =>
            match call.stmt.shown with
            | none => (.invalidState, out)
            | some result => read result col.toNat
        | (status, _) => (status, out)

/-- `sqli_call_get_int64` -/
def callGetInt64 (setting : Setting) (services : Services)
    (call : Option Call) (index : Nat) (out : Cell Int) : Status × Cell Int :=
  readOutput call index out fun result col =>
    getInt64 setting services result col out

/-- `sqli_call_get_double` -/
def callGetDouble (setting : Setting) (services : Services) (floats : Floats)
    (call : Option Call) (index : Nat) (out : Cell UInt64) :
    Status × Cell UInt64 :=
  readOutput call index out fun result col =>
    getDouble setting services floats result col out

/-- A text and its NULL flag, and the result after the conversion. -/
abbrev TextRead := Cell (List UInt8) × Option Result

/-- `sqli_call_get_string`; the text getter is given a column of the result. -/
def callGetString (text : Result → Nat → List UInt8 × Result)
    (call : Option Call) (index : Nat) (out : TextRead) : Status × TextRead :=
  readOutput call index out fun result col =>
    match text result col with
    | (shown, result) => (.ok, ⟨shown, result.lastWasNull⟩, some result)

variable {call next : Call} {index : Nat}

/-! Ranks among the numbers that have a property, below a bound. -/

theorem count_bijOn (holds : Nat → Prop) [DecidablePred holds] {bound : Nat}
    (hbound : ∀ index, holds index → index < bound) :
    Set.BijOn (Nat.count holds) {index | holds index}
      (Set.Iio (Nat.count holds bound)) := by
  refine ⟨fun index hindex => ?_, fun left hleft right hright hcount => ?_,
    fun rank hrank => ?_⟩
  · exact Nat.count_strict_mono hindex (hbound index hindex)
  · exact Nat.count_injective hleft hright hcount
  · have hcard : ∀ hfinite : (Set.ofPred holds).Finite,
        rank < hfinite.toFinset.card := fun hfinite =>
      hrank.trans_le (Nat.count_le_card hfinite bound)
    exact ⟨Nat.nth holds rank, Nat.nth_mem rank hcard, Nat.count_nth hcard⟩

theorem count_strictMonoOn (holds : Nat → Prop) [DecidablePred holds] :
    StrictMonoOn (Nat.count holds) {index | holds index} :=
  fun _ hleft _ _ hlt => Nat.count_strict_mono hleft hlt

/-! The scan finds the rank among the output parameters. -/

def OutputAt (modes : List ParamMode) (index : Nat) : Prop :=
  (modes[index]?).any ParamMode.isOutput = true

instance (modes : List ParamMode) : DecidablePred (OutputAt modes) :=
  fun index => inferInstanceAs
    (Decidable ((modes[index]?).any ParamMode.isOutput = true))

theorem OutputAt.lt_length {modes : List ParamMode}
    (houtput : OutputAt modes index) : index < modes.length := by
  by_contra hge
  rw [OutputAt, List.getElem?_eq_none (by omega)] at houtput
  cases houtput

theorem outColLoop_passed {modes : List ParamMode} {i outCol : Nat}
    (hpassed : index < i) : outColLoop index modes i outCol = none := by
  induction modes generalizing i outCol with
  | nil => rfl
  | cons mode modes ih =>
      rw [outColLoop]
      split
      · rw [if_neg (by omega)]
        exact ih (by omega)
      · exact ih (by omega)

theorem outColLoop_eq {modes : List ParamMode} {i outCol : Nat}
    (hle : i ≤ index) :
    outColLoop index modes i outCol =
      if OutputAt modes (index - i) then
        some (outCol + Nat.count (OutputAt modes) (index - i))
      else none := by
  induction modes generalizing i outCol with
  | nil => rfl
  | cons mode modes ih =>
      rcases Nat.eq_or_lt_of_le hle with rfl | hlt
      · have hhead : OutputAt (mode :: modes) (i - i) ↔
            mode.isOutput = true := by
          rw [Nat.sub_self]
          exact Iff.rfl
        simp only [hhead]
        rw [outColLoop, Nat.sub_self, Nat.count_zero, if_pos rfl]
        simp only [outColLoop_passed (Nat.lt_succ_self i), Nat.add_zero]
      · have hindex : index - i = (index - (i + 1)) + 1 := by omega
        have hcount : Nat.count (OutputAt (mode :: modes)) (index - i) =
            Nat.count (OutputAt modes) (index - (i + 1)) +
              if mode.isOutput then 1 else 0 := by
          rw [hindex, Nat.count_succ']
          rfl
        have htail : OutputAt (mode :: modes) (index - i) ↔
            OutputAt modes (index - (i + 1)) := by
          rw [hindex]
          exact Iff.rfl
        simp only [htail]
        rw [outColLoop, hcount]
        cases mode.isOutput with
        | true =>
            rw [if_pos rfl, if_neg (by omega), ih (by omega)]
            simp only [if_true]
            rw [Nat.add_assoc, Nat.add_comm 1]
        | false =>
            rw [if_neg (by decide), ih (by omega)]
            simp

/-! What every run of calls keeps. -/

structure Call.Formed (call : Call) : Prop where
  modes_none : call.paramCount ≤ 0 → call.modes = none
  modes_some : 0 < call.paramCount → ∃ modes, call.modes = some modes ∧
    modes.length = call.paramCount

/-- A parameter of the call that is read from a column. -/
abbrev Call.IsOutput (call : Call) (index : Nat) : Prop :=
  OutputAt call.counted index

/-- The column of an output parameter. -/
def Call.column (call : Call) (index : Nat) : Nat :=
  Nat.count call.IsOutput index

def Call.outputs (call : Call) : Nat :=
  Nat.count call.IsOutput call.counted.length

/-- One thing that happens to a call; the user may reach the statement with
`sqli_call_stmt`. -/
inductive Step where
  | setMode (index : Nat) (mode : Int)
  | execute (execution : Execution) (setting : Setting)
  | onStatement (change : Statement → Statement)

def withMode (call : Call) (index : Nat) (mode : Int) : Call :=
  ((setParamMode (some call) index mode).2).getD call

def Step.apply (call : Call) : Step → Call
  | .setMode index mode => withMode call index mode
  | .execute execution setting => (callExecute execution setting call).2
  | .onStatement change => { call with stmt := change call.stmt }

def afterSteps (call : Call) (steps : List Step) : Call :=
  steps.foldl Step.apply call

def afterModes (call : Call) (changes : List (Nat × Int)) : Call :=
  changes.foldl (fun call change => withMode call change.1 change.2) call

theorem withMode_eq (call : Call) (index : Nat) (mode : Int) :
    ∃ change : List ParamMode → List ParamMode,
      (∀ modes, (change modes).length = modes.length) ∧
      withMode call index mode =
        { call with modes := call.modes.map change } := by
  have hsame : ({ call with modes := call.modes.map id } : Call) = call := by
    rw [Option.map_id_fun]
    rfl
  unfold withMode setParamMode
  split
  · exact ⟨id, fun _ => rfl, hsame.symm⟩
  · next found _ =>
    split
    · next hcall _ =>
      cases hcall
      exact ⟨(·.set index found), fun _ => List.length_set, rfl⟩
    · exact ⟨id, fun _ => rfl, hsame.symm⟩

theorem formed_callPrepare (nparams : Int) (stmt : Statement) :
    (callPrepare nparams stmt).Formed where
  modes_none := fun hle => if_neg (by dsimp only [callPrepare] at hle; omega)
  modes_some := fun hlt => by
    refine ⟨List.replicate nparams.toNat .input, if_pos hlt, ?_⟩
    dsimp only [callPrepare] at hlt ⊢
    rw [List.length_replicate]
    omega

theorem Call.Formed.withMode (hformed : call.Formed) (index : Nat)
    (mode : Int) : (withMode call index mode).Formed := by
  obtain ⟨change, hlength, heq⟩ := withMode_eq call index mode
  rw [heq]
  constructor
  · intro hle
    dsimp only
    rw [hformed.modes_none hle]
    rfl
  · intro hlt
    obtain ⟨modes, hmodes, hcount⟩ := hformed.modes_some hlt
    refine ⟨change modes, by dsimp only; rw [hmodes]; rfl, ?_⟩
    rw [hlength]
    exact hcount

/-- Neither the number of parameters nor their modes change. -/
theorem callExecute_modes (execution : Execution) (setting : Setting)
    (call : Call) :
    (callExecute execution setting call).2.paramCount = call.paramCount ∧
      (callExecute execution setting call).2.modes = call.modes := by
  unfold callExecute
  split
  · unfold fetchOutput
    split
    · exact ⟨rfl, rfl⟩
    · split <;> exact ⟨rfl, rfl⟩
  · exact ⟨rfl, rfl⟩

theorem Call.Formed.step (hformed : call.Formed) (step : Step) :
    (step.apply call).Formed := by
  cases step with
  | setMode index mode => exact hformed.withMode index mode
  | execute execution setting =>
      obtain ⟨hcount, hmodes⟩ := callExecute_modes execution setting call
      constructor
      · rw [Step.apply, hcount, hmodes]
        exact hformed.modes_none
      · rw [Step.apply, hcount, hmodes]
        exact hformed.modes_some
  | onStatement change => exact ⟨hformed.modes_none, hformed.modes_some⟩

theorem Call.Formed.afterSteps (hformed : call.Formed) (steps : List Step) :
    (afterSteps call steps).Formed := by
  induction steps generalizing call with
  | nil => exact hformed
  | cons step steps ih => exact ih (hformed.step step)

theorem Call.Formed.afterModes (hformed : call.Formed)
    (changes : List (Nat × Int)) : (afterModes call changes).Formed := by
  induction changes generalizing call with
  | nil => exact hformed
  | cons change changes ih => exact ih (hformed.withMode change.1 change.2)

/-! The mapping of one call. -/

structure MapsOutputs (call : Call) : Prop where
  maps : ∀ index out, call.IsOutput index →
    paramToOutCol (some call) index (some out) =
      (.ok, some (call.column index : Int))
  increasing : StrictMonoOn call.column {index | call.IsOutput index}
  bijective : Set.BijOn call.column {index | call.IsOutput index}
    (Set.Iio call.outputs)
  refuses : ∀ index out, ¬ call.IsOutput index → ∃ status, status ≠ .ok ∧
    paramToOutCol (some call) index (some out) = (status, some out)

theorem Call.Formed.counted_length (hformed : call.Formed) :
    (call.counted.length : Int) = max call.paramCount 0 := by
  unfold Call.counted
  by_cases hpositive : 0 < call.paramCount
  · obtain ⟨modes, hmodes, hlength⟩ := hformed.modes_some hpositive
    rw [hmodes, Option.getD_some, List.length_take]
    omega
  · rw [hformed.modes_none (by omega), Option.getD_none, List.take_nil]
    simp only [List.length_nil]
    omega

theorem validateIndex_ok (hformed : call.Formed)
    (hindex : index < call.counted.length) :
    validateIndex (some call) index = .ok := by
  have hlength := hformed.counted_length
  obtain ⟨modes, hmodes, -⟩ := hformed.modes_some (by omega)
  rw [validateIndex, if_neg (by omega), if_neg (by rw [hmodes]; simp)]

theorem paramToOutCol_eq (hvalid : validateIndex (some call) index = .ok)
    (out : Int) :
    paramToOutCol (some call) index (some out) =
      if call.IsOutput index then (.ok, some (call.column index : Int))
      else (.invalidState, some out) := by
  have hloop := @outColLoop_eq index call.counted 0 0 (Nat.zero_le _)
  rw [Nat.sub_zero, Nat.zero_add] at hloop
  unfold paramToOutCol
  rw [hvalid]
  dsimp only
  rw [hloop]
  by_cases houtput : call.IsOutput index
  · rw [if_pos houtput, if_pos houtput]
    rfl
  · rw [if_neg houtput, if_neg houtput]

theorem Call.Formed.mapsOutputs (hformed : call.Formed) :
    MapsOutputs call where
  maps := fun index out houtput => by
    rw [paramToOutCol_eq (validateIndex_ok hformed houtput.lt_length),
      if_pos houtput]
  increasing := count_strictMonoOn call.IsOutput
  bijective := count_bijOn call.IsOutput fun _ => OutputAt.lt_length
  refuses := fun index out hinput => by
    by_cases hvalid : validateIndex (some call) index = .ok
    · refine ⟨.invalidState, by decide, ?_⟩
      rw [paramToOutCol_eq hvalid, if_neg hinput]
    · refine ⟨validateIndex (some call) index, hvalid, ?_⟩
      unfold paramToOutCol
      split
      · next hcall hok => exact absurd hok hvalid
      · rfl

/-! The getters behind it. -/

/-- The getters of the output parameters read these columns of the result. -/
structure ReadsColumns (call : Call) (result : Result) : Prop where
  int64 : ∀ index, call.IsOutput index → ∀ setting services out,
    callGetInt64 setting services (some call) index out =
      getInt64 setting services result (call.column index) out
  double : ∀ index, call.IsOutput index → ∀ setting services floats out,
    callGetDouble setting services floats (some call) index out =
      getDouble setting services floats result (call.column index) out
  string : ∀ index, call.IsOutput index → ∀ text out,
    callGetString text (some call) index out =
      (.ok, ⟨(text result (call.column index)).1,
        (text result (call.column index)).2.lastWasNull⟩,
        some (text result (call.column index)).2)
  inside : result.columns.length = call.outputs → ∀ index,
    call.IsOutput index → call.column index < result.columns.length

theorem readOutput_eq {result : Result} (hmaps : MapsOutputs call)
    (hready : call.outRowReady = true) (hshown : call.stmt.shown = some result)
    (houtput : call.IsOutput index) (out : α)
    (read : Result → Nat → Status × α) :
    readOutput (some call) index out read =
      read result (call.column index) := by
  unfold readOutput
  dsimp only
  rw [if_neg (by rw [hready]; decide), hmaps.maps index (-1) houtput]
  dsimp only
  rw [hshown]
  rfl

theorem readsColumns {result : Result} (hmaps : MapsOutputs call)
    (hready : call.outRowReady = true)
    (hshown : call.stmt.shown = some result) : ReadsColumns call result where
  int64 := fun _ houtput _ _ out =>
    readOutput_eq hmaps hready hshown houtput out _
  double := fun _ houtput _ _ _ out =>
    readOutput_eq hmaps hready hshown houtput out _
  string := fun _ houtput _ out =>
    readOutput_eq hmaps hready hshown houtput out _
  inside := fun hcount index houtput => by
    rw [hcount]
    exact hmaps.bijective.mapsTo houtput

theorem callExecute_shown {execution : Execution} {setting : Setting}
    (hexecute : callExecute execution setting call = (.ok, next))
    (hready : next.outRowReady = true) :
    ∃ result, next.stmt.shown = some result := by
  unfold callExecute at hexecute
  split at hexecute
  · next stmt hran =>
    unfold fetchOutput at hexecute
    split at hexecute
    · cases hexecute
      cases hready
    · split at hexecute
      · cases hexecute
        cases hready
      · next result hshown =>
        obtain ⟨-, rfl⟩ := Prod.mk.inj hexecute
        dsimp only [Statement.shown] at hshown ⊢
        split at hshown
        · next hvalid =>
          rw [if_pos hvalid]
          exact ⟨_, rfl⟩
        · cases hshown
  · next hfailed =>
    obtain ⟨hrc, rfl⟩ := Prod.mk.inj hexecute
    cases hready

theorem afterModes_kept (call : Call) (changes : List (Nat × Int)) :
    (afterModes call changes).stmt = call.stmt ∧
      (afterModes call changes).outRowReady = call.outRowReady := by
  induction changes generalizing call with
  | nil => exact ⟨rfl, rfl⟩
  | cons change changes ih =>
      obtain ⟨kept, -, heq⟩ := withMode_eq call change.1 change.2
      have hrest := ih (withMode call change.1 change.2)
      rw [heq] at hrest
      rw [afterModes, List.foldl_cons, heq]
      exact hrest

theorem call_columns (nparams : Int) (stmt : Statement) (steps : List Step) :
    MapsOutputs (afterSteps (callPrepare nparams stmt) steps) ∧
      ∀ execution setting fetched,
        callExecute execution setting
          (afterSteps (callPrepare nparams stmt) steps) = (.ok, fetched) →
        fetched.outRowReady = true → ∀ changes, ∃ result,
          (afterModes fetched changes).stmt.shown = some result ∧
          MapsOutputs (afterModes fetched changes) ∧
          ReadsColumns (afterModes fetched changes) result := by
  have hformed := (formed_callPrepare nparams stmt).afterSteps steps
  refine ⟨hformed.mapsOutputs, ?_⟩
  intro execution setting fetched hexecute hready changes
  have hfetched : fetched.Formed := by
    have hstep := hformed.step (.execute execution setting)
    rwa [Step.apply, hexecute] at hstep
  obtain ⟨result, hshown⟩ := callExecute_shown hexecute hready
  obtain ⟨hstmt, hkept⟩ := afterModes_kept fetched changes
  have hmaps := (hfetched.afterModes changes).mapsOutputs
  rw [← hstmt] at hshown
  rw [← hkept] at hready
  exact ⟨result, hshown, hmaps, readsColumns hmaps hready hshown⟩

/-- A procedure of three parameters that returned one row of two integers. -/
def returned : Statement where
  result := { twoIntegers with
    columns := [⟨Layout.typeInt, 4⟩, ⟨Layout.typeInt, 4⟩]
    rows := ⟨[[0, 0, 0, 5, 0, 0, 0, 9]], by decide⟩ }
  resultValid := true

def lastTwo : List Step := [.setMode 1 1, .setMode 2 2]

def executed : Status × Call :=
  callExecute (fun stmt => (.ok, stmt)) unowned
    (afterSteps (callPrepare 3 returned) lastTwo)

theorem call_columns_two :
    callGetInt64 unowned noServices (some executed.2) 1 ⟨0, false⟩ =
        (.ok, ⟨5, false⟩) ∧
      callGetInt64 unowned noServices (some executed.2) 2 ⟨0, false⟩ =
        (.ok, ⟨9, false⟩) := by
  have hexecuted : callExecute (fun stmt => (.ok, stmt)) unowned
      (afterSteps (callPrepare 3 returned) lastTwo) = (.ok, executed.2) :=
    Prod.ext rfl rfl
  obtain ⟨result, hshown, -, hreads⟩ :=
    (call_columns 3 returned lastTwo).2 _ _ _ hexecuted rfl []
  have hresult : result = executed.2.stmt.result :=
    (Option.some.inj hshown).symm
  have hfirst := hreads.int64 1 (by decide) unowned noServices ⟨0, false⟩
  have hsecond := hreads.int64 2 (by decide) unowned noServices ⟨0, false⟩
  rw [hresult] at hfirst hsecond
  exact ⟨hfirst.trans rfl, hsecond.trans rfl⟩

end Libsqli.Callable
