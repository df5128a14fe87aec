import Libsqli.Receive.Describing
import Libsqli.Receive.Execute

namespace Libsqli.Receive

open Libsqli.Data.Bytes
open Libsqli.Data.Program
open Libsqli.Data.Stream

variable {sizes : Sizes} {malloc : Nat → Bool} {caps : Capabilities}
  {extended : Bool} {own : Drafting} {describe : Describe}
  {names : List (List UInt8)} {bytes later : List UInt8} {count : Nat}

/-! The names of the fields. -/

/-- Names that each end in a zero octet. -/
def nameArea (names : List (List UInt8)) : List UInt8 :=
  names.flatMap (· ++ [0])

/-- The name of each of `count` fields. -/
def namesOf (count : Nat) (names : List (List UInt8)) :
    List (Option (List UInt8)) :=
  (List.range count).map (names[·]?)

theorem namesOf_succ_nil (count : Nat) :
    namesOf (count + 1) [] = List.replicate (count + 1) none := by
  simp [namesOf, List.map_const']

theorem namesOf_succ_cons (count : Nat) (name : List UInt8) :
    namesOf (count + 1) (name :: names) = some name :: namesOf count names := by
  simp [namesOf, List.range_succ_eq_map, Function.comp_def]

theorem idxOf?_zero {name : List UInt8} (hname : 0 ∉ name)
    (rest : List UInt8) : (name ++ 0 :: rest).idxOf? 0 = some name.length := by
  induction name with
  | nil => simp [List.idxOf?_cons]
  | cons byte name ih =>
      rw [List.mem_cons, not_or] at hname
      rw [List.cons_append, List.idxOf?_cons, ih hname.2]
      simp [Ne.symm hname.1]

theorem assignFieldNames_succ (count : Nat) (hbytes : bytes ≠ []) :
    assignFieldNames (count + 1) bytes =
      match bytes.idxOf? 0 with
      | none => none
      | some length =>
          (assignFieldNames count (bytes.drop (length + 1))).map
            (some (bytes.take length) :: ·) := by
  cases bytes with
  | nil => exact absurd rfl hbytes
  | cons byte bytes => rfl

theorem assignFieldNames_cons {name : List UInt8} (hname : 0 ∉ name)
    (rest : List UInt8) :
    assignFieldNames (count + 1) (name ++ 0 :: rest) =
      (assignFieldNames count rest).map (some name :: ·) := by
  have hdrop : (name ++ 0 :: rest).drop (name.length + 1) = rest := by simp
  rw [assignFieldNames_succ count (by simp), idxOf?_zero hname]
  dsimp only
  rw [hdrop, List.take_left]

/-- Names beyond the fields, and what stands behind them, are passed over. -/
theorem assignFieldNames_area {rest : List UInt8}
    (hnames : ∀ name ∈ names, 0 ∉ name)
    (hrest : rest = [] ∨ count ≤ names.length) :
    assignFieldNames count (nameArea names ++ rest) =
      some (namesOf count names) := by
  induction count generalizing names with
  | zero => rfl
  | succ count ih =>
      cases names with
      | nil =>
          have hnil : rest = [] := hrest.resolve_right (by simp)
          rw [hnil, namesOf_succ_nil]
          rfl
      | cons name names =>
          rw [List.forall_mem_cons] at hnames
          have harea : nameArea (name :: names) ++ rest =
              name ++ 0 :: (nameArea names ++ rest) := by
            simp [nameArea]
          rw [harea, assignFieldNames_cons hnames.1, ih hnames.2
            (hrest.imp_right fun h => by simpa using h), namesOf_succ_cons]
          rfl

theorem assignFieldNames_unterminated {rest : List UInt8}
    (hnames : ∀ name ∈ names, 0 ∉ name) (hcount : names.length < count)
    (hrest : rest ≠ []) (hopen : 0 ∉ rest) :
    assignFieldNames count (nameArea names ++ rest) = none := by
  induction count generalizing names with
  | zero => omega
  | succ count ih =>
      cases names with
      | nil =>
          cases rest with
          | nil => exact absurd rfl hrest
          | cons byte rest =>
              have hnone : (byte :: rest).idxOf? 0 = none :=
                List.idxOf?_eq_none_iff.mpr hopen
              change assignFieldNames (count + 1) (byte :: rest) = none
              rw [assignFieldNames_succ count (by simp), hnone]
      | cons name names =>
          rw [List.forall_mem_cons] at hnames
          have harea : nameArea (name :: names) ++ rest =
              name ++ 0 :: (nameArea names ++ rest) := by
            simp [nameArea]
          rw [harea, assignFieldNames_cons hnames.1,
            ih hnames.2 (by simpa using hcount)]
          rfl

/-! No failure touches what is published. -/

variable {kept : Drafting → Prop}

theorem keeps_paddedOctets (length : Nat) :
    Keeps kept (paddedOctets length) :=
  (Keeps.readExact _).bind fun _ => (Keeps.readExact _).bind
    fun _ => Keeps.pure _

/-- A condition that allocations keep, a draft keeps. -/
theorem keeps_receiveDraft (hcreate : ∀ count,
      Keeps kept (createDescriptor sizes malloc count))
    (halloc : ∀ length, Keeps kept (allocBytes malloc length)) :
    Keeps kept (receiveDraft sizes malloc extended) := by
  have hword (width : Nat) : Keeps kept (word width) := Keeps.readNatural width
  have hstring : Keeps kept (receiveString malloc) :=
    (hword 2).bind fun length => (halloc length).bind
      fun _ => keeps_paddedOctets length
  have hfield : Keeps kept (receiveField malloc extended) := by
    refine (hword 4).bind fun _ => (hword 4).bind fun _ =>
      (hword 2).bind fun _ => Holds.ite (fun _ => ?_) fun _ => ?_
    · exact (hword 2).bind fun _ => Keeps.pure _
    · exact (hword 4).bind fun _ => hstring.bind fun _ => hstring.bind
        fun _ => (hword 2).bind fun _ => (hword 2).bind fun _ =>
          (hword 4).bind fun _ => (hword 4).bind fun _ => Keeps.pure _
  have hfields : ∀ count,
      Keeps kept (receiveFields malloc extended count) := by
    intro count
    induction count with
    | zero => exact Keeps.pure []
    | succ count ih =>
        exact hfield.bind fun _ => ih.bind fun _ => Keeps.pure _
  have hnames (length : Nat) : Keeps kept (receiveNames malloc length) :=
    (halloc length).bind fun _ => keeps_paddedOctets length
  refine (hword 2).bind fun _ => (hword 2).bind fun _ => (hword 4).bind
    fun _ => (hword 2).bind fun _ => (hword 2).bind fun count =>
      (hword _).bind fun length => Holds.ite (fun _ => Keeps.throw _) fun _ => ?_
  exact (hcreate count).bind fun _ => (hfields count).bind fun _ =>
    (hnames length).bind fun _ => Keeps.pure _

/-- What a reception has found published. -/
def Published (published : Option Descriptor) (result : Result)
    (own : Drafting) : Prop :=
  own.published = published ∧ own.result = result

theorem keeps_beginDraft {published : Option Descriptor} {result : Result} :
    Keeps (Published published result) beginDraft :=
  Keeps.onOwn fun own value after hkept hstep => by
    cases hstep
    exact hkept

theorem keeps_createDescriptor_published {published : Option Descriptor}
    {result : Result} (count : Nat) :
    Keeps (Published published result)
      (createDescriptor sizes malloc count) := by
  refine Keeps.onOwn fun own value after hkept hstep => ?_
  split at hstep
  · cases hstep
  · split at hstep
    · cases hstep
    · split at hstep
      · cases hstep
      · cases hstep
        exact hkept

theorem keeps_allocBytes_published {published : Option Descriptor}
    {result : Result} (length : Nat) :
    Keeps (Published published result) (allocBytes malloc length) := by
  refine Keeps.onOwn fun own value after hkept hstep => ?_
  split at hstep
  · cases hstep
  · split at hstep
    · cases hstep
    · cases hstep
      exact hkept

theorem keeps_allocColumns (count : Nat) :
    Keeps kept (allocColumns sizes malloc count) := by
  refine Keeps.onOwn fun own value after hkept hstep => ?_
  split at hstep
  · cases hstep
  · split at hstep
    · cases hstep
    · cases hstep
      exact hkept

theorem receiveDescribe_unchanged {state after : Incoming Drafting}
    {status : Status}
    (hrun : receiveDescribe sizes malloc caps state = .error status after) :
    after.own.published = state.own.published ∧
      after.own.result = state.own.result := by
  have hdraft : Keeps (Published state.own.published state.own.result)
      (receiveDraft sizes malloc caps.extendedDescribe) :=
    keeps_receiveDraft keeps_createDescriptor_published
      keeps_allocBytes_published
  have hfinish (describe : Describe) :
      Holds (fun middle =>
          Published state.own.published state.own.result middle.own)
        (finishDescribe sizes malloc caps describe) (fun _ _ => True)
        fun _ middle =>
          Published state.own.published state.own.result middle.own := by
    unfold finishDescribe
    split
    · exact fun _ hkept => hkept
    · exact (keeps_allocColumns _).bind fun _ _ _ => trivial
  have hwhole : Holds (fun middle =>
        Published state.own.published state.own.result middle.own)
      (receiveDescribe sizes malloc caps) (fun _ _ => True)
      fun _ middle =>
        Published state.own.published state.own.result middle.own :=
    keeps_beginDraft.bind fun _ => hdraft.bind hfinish
  have hstate := hwhole state ⟨rfl, rfl⟩
  rw [hrun] at hstate
  exact hstate

/-! The budget. -/

/-- The descriptor under construction keeps to the limit, and so does what it has
replaced the published one by. -/
def WithinBudget (published : Option Descriptor) (own : Drafting) : Prop :=
  own.retainedBytes ≤ descriptorMaxBytes ∧
    (own.published = published ∨ ∀ descriptor ∈ own.published,
      descriptor.retainedBytes ≤ descriptorMaxBytes)

variable {published : Option Descriptor}

theorem keeps_createDescriptor_budget (count : Nat) :
    Keeps (WithinBudget published) (createDescriptor sizes malloc count) := by
  refine Keeps.onOwn fun own value after hkept hstep => ?_
  split at hstep
  · cases hstep
  · next hlimit =>
    split at hstep
    · cases hstep
    · split at hstep
      · cases hstep
      · cases hstep
        refine ⟨?_, hkept.2⟩
        rw [not_or, Nat.not_lt, Nat.not_lt, Nat.le_div_iff_mul_le sizes.field_pos]
          at hlimit
        have := sizes.descriptor_le
        have := hlimit.2
        dsimp only
        omega

theorem keeps_allocBytes_budget (length : Nat) :
    Keeps (WithinBudget published) (allocBytes malloc length) := by
  refine Keeps.onOwn fun own value after hkept hstep => ?_
  split at hstep
  · cases hstep
  · next hlimit =>
    split at hstep
    · cases hstep
    · cases hstep
      refine ⟨?_, hkept.2⟩
      have := hkept.1
      dsimp only
      omega

theorem receiveDescribe_budget (state : Incoming Drafting) :
    WithinBudget state.own.published
      (stateOf (receiveDescribe sizes malloc caps state)).own := by
  have hbegin : Holds (fun start => start = state) beginDraft
      (fun _ middle => WithinBudget state.own.published middle.own)
      fun _ middle => WithinBudget state.own.published middle.own := by
    rintro _ rfl
    exact ⟨Nat.zero_le _, .inl rfl⟩
  have hpublish (describe : Describe) (names : List (Option (List UInt8))) :
      Keeps (WithinBudget state.own.published)
        (publish caps describe names) := by
    refine Keeps.onOwn fun own value after hkept hstep => ?_
    cases hstep
    refine ⟨hkept.1, .inr fun descriptor hdescriptor => ?_⟩
    cases hdescriptor
    exact hkept.1
  have hfinish (describe : Describe) :
      Keeps (WithinBudget state.own.published)
        (finishDescribe sizes malloc caps describe) := by
    unfold finishDescribe
    split
    · exact Keeps.throw _
    · exact (keeps_allocColumns _).bind fun _ => hpublish _ _
  have hwhole : Holds (fun start => start = state)
      (receiveDescribe sizes malloc caps)
      (fun _ after => WithinBudget state.own.published after.own)
      fun _ after => WithinBudget state.own.published after.own :=
    hbegin.bind fun _ => (keeps_receiveDraft keeps_createDescriptor_budget
      keeps_allocBytes_budget).bind hfinish
  have hstate := hwhole state rfl
  cases hrun : receiveDescribe sizes malloc caps state with
  | ok value after =>
      rw [hrun] at hstate
      exact hstate
  | error status after =>
      rw [hrun] at hstate
      exact hstate

/-! Input that ends too early. -/

theorem extends_paddedOctets (length : Nat) : Extends (paddedOctets length) :=
  (Extends.readExact _).bind fun _ => (Extends.readExact _).bind
    fun _ => Extends.pure _

theorem extends_receiveString : Extends (receiveString malloc) :=
  (Extends.readNatural 2).bind fun _ => (Extends.onOwn _).bind
    fun _ => extends_paddedOctets _

theorem extends_receiveField : Extends (receiveField malloc extended) := by
  have hword (width : Nat) : Extends (word width) := Extends.readNatural width
  refine (hword 4).bind fun _ => (hword 4).bind fun _ =>
    (hword 2).bind fun _ => Extends.ite ?_ ?_
  · exact (hword 2).bind fun _ => Extends.pure _
  · exact (hword 4).bind fun _ => extends_receiveString.bind fun _ =>
      extends_receiveString.bind fun _ => (hword 2).bind fun _ =>
        (hword 2).bind fun _ => (hword 4).bind fun _ =>
          (hword 4).bind fun _ => Extends.pure _

theorem extends_receiveFields (count : Nat) :
    Extends (receiveFields malloc extended count) := by
  induction count with
  | zero => exact Extends.pure []
  | succ count ih =>
      exact extends_receiveField.bind fun _ => ih.bind fun _ => Extends.pure _

theorem extends_receiveDescribe :
    Extends (receiveDescribe sizes malloc caps) := by
  have hword (width : Nat) : Extends (word width) := Extends.readNatural width
  have hnames (length : Nat) : Extends (receiveNames malloc length) :=
    (Extends.onOwn _).bind fun _ => extends_paddedOctets length
  have hdraft : Extends (receiveDraft sizes malloc caps.extendedDescribe) := by
    refine (hword 2).bind fun _ => (hword 2).bind fun _ => (hword 4).bind
      fun _ => (hword 2).bind fun _ => (hword 2).bind fun count =>
        (hword _).bind fun length => Extends.ite (Extends.throw _) ?_
    exact (Extends.onOwn _).bind fun _ =>
      (extends_receiveFields count).bind fun _ =>
        (hnames length).bind fun _ => Extends.pure _
  refine (Extends.onOwn _).bind fun _ => hdraft.bind fun describe => ?_
  unfold finishDescribe
  split
  · exact Extends.throw _
  · exact (Extends.onOwn _).bind fun _ => Extends.onOwn _

/-! A whole message. -/

/-- What a successful reception leaves. -/
def Drafting.described (own : Drafting) (sizes : Sizes) (caps : Capabilities)
    (describe : Describe) (names : List (Option (List UInt8))) : Drafting where
  retainedBytes := describe.retainedSize sizes
  published := some
    ⟨caps.extendedDescribe, describe, names, describe.retainedSize sizes⟩
  result := replaceDescriptor caps describe own.result

theorem attempts_finishDescribe {certain : Prop}
    {assigned : List (Option (List UInt8))}
    (hcount : describe.fields.length < 65536)
    (hgranted : certain → ∀ size, malloc size = true)
    (hnames : assignFieldNames describe.fields.length describe.names =
      some assigned) :
    Attempts certain (finishDescribe sizes malloc caps describe) []
      (own.restart (describe.retainedSize sizes)) ()
      (own.described sizes caps describe assigned) := by
  unfold finishDescribe
  rw [hnames]
  have hcolumns : Attempts certain
      (allocColumns sizes malloc describe.fields.length) []
      (own.restart (describe.retainedSize sizes)) ()
      (own.restart (describe.retainedSize sizes)) := by
    apply Attempts.onOwn
    have hlimit : ¬ (describe.fields.length ≠ 0 ∧
        sizeMax / sizes.column < describe.fields.length) := by
      have := sizes.columns_le
      omega
    by_cases hmalloc : describe.fields.length ≠ 0 ∧
        malloc (describe.fields.length * sizes.column) = false
    · right
      refine ⟨fun h => ?_, .allocFail, by rw [if_neg hlimit, if_pos hmalloc]⟩
      rw [hgranted h] at hmalloc
      exact absurd hmalloc.2 (by decide)
    · left
      rw [if_neg hlimit, if_neg hmalloc]
  exact hcolumns.bind (Attempts.onOwn (.inl rfl))

/-- Either the message is taken, or the reception fails. -/
theorem receiveDescribe_message (hfits : describe.Fits caps.extendedDescribe)
    {assigned : List (Option (List UInt8))}
    (hnames : assignFieldNames describe.fields.length describe.names =
      some assigned) :
    Attempts (Afforded sizes malloc describe)
      (receiveDescribe sizes malloc caps)
      (describeBytes caps.extendedDescribe describe) own ()
      (own.described sizes caps describe assigned) := by
  have hbegin : Attempts (Afforded sizes malloc describe) beginDraft [] own ()
      (own.restart 0) := Attempts.onOwn (.inl rfl)
  have hdraft := @attempts_receiveDraft sizes malloc caps.extendedDescribe
    (Afforded sizes malloc describe) (own.restart 0) describe hfits id
  have hfinish := @attempts_finishDescribe sizes malloc caps (own.restart 0)
    describe (Afforded sizes malloc describe) assigned hfits.fields_lt
    Afforded.granted hnames
  exact hbegin.bind (hdraft.then hfinish)

theorem receiveDescribe_unterminated
    (hfits : describe.Fits caps.extendedDescribe)
    (hnames : assignFieldNames describe.fields.length describe.names = none)
    (later : List UInt8) (own : Drafting) :
    ∃ status after, receiveDescribe sizes malloc caps
        ⟨describeBytes caps.extendedDescribe describe ++ later, own⟩ =
      .error status after := by
  have hdraft := @attempts_receiveDraft sizes malloc caps.extendedDescribe
    (Afforded sizes malloc describe) (own.restart 0) describe hfits id later
  have hbegin : beginDraft
      ⟨describeBytes caps.extendedDescribe describe ++ later, own⟩ =
        .ok () ⟨describeBytes caps.extendedDescribe describe ++ later,
          own.restart 0⟩ := rfl
  unfold receiveDescribe
  rw [bind_apply, hbegin]
  dsimp only
  rw [bind_apply]
  rcases hdraft with hrun | ⟨-, status, after, hrun⟩
  · rw [hrun]
    dsimp only
    unfold finishDescribe
    rw [hnames]
    exact ⟨_, _, rfl⟩
  · rw [hrun]
    exact ⟨status, after, rfl⟩

/-- It leaves what stands behind the message, or it fails. -/
theorem receiveDescribe_cases (sizes : Sizes) (malloc : Nat → Bool)
    (hfits : describe.Fits caps.extendedDescribe) (later : List UInt8)
    (own : Drafting) :
    (∃ assigned, receiveDescribe sizes malloc caps
        ⟨describeBytes caps.extendedDescribe describe ++ later, own⟩ =
      .ok () ⟨later, own.described sizes caps describe assigned⟩) ∨
    ∃ status after, receiveDescribe sizes malloc caps
        ⟨describeBytes caps.extendedDescribe describe ++ later, own⟩ =
      .error status after := by
  cases hnames : assignFieldNames describe.fields.length describe.names with
  | none => exact .inr (receiveDescribe_unterminated hfits hnames later own)
  | some assigned =>
      rcases @receiveDescribe_message sizes malloc caps own describe hfits
        assigned hnames later with hrun | ⟨-, status, after, hrun⟩
      · exact .inl ⟨assigned, hrun⟩
      · exact .inr ⟨status, after, hrun⟩

/-! What a reception does to what is published. -/

/-- It fails and leaves everything that was published. -/
def Refused (sizes : Sizes) (malloc : Nat → Bool) (caps : Capabilities)
    (state : Incoming Drafting) : Prop :=
  ∃ status after, receiveDescribe sizes malloc caps state =
      .error status after ∧
    after.own.published = state.own.published ∧
    after.own.result = state.own.result

theorem refused_of_error {state : Incoming Drafting}
    (herror : ∃ status after, receiveDescribe sizes malloc caps state =
      .error status after) : Refused sizes malloc caps state := by
  obtain ⟨status, after, hrun⟩ := herror
  exact ⟨status, after, hrun, receiveDescribe_unchanged hrun⟩

/-- A message that is cut off is not taken. -/
theorem receiveDescribe_truncated (sizes : Sizes) (malloc : Nat → Bool)
    (hfits : describe.Fits caps.extendedDescribe)
    (hcount : count < (describeBytes caps.extendedDescribe describe).length)
    (own : Drafting) :
    Refused sizes malloc caps
      ⟨(describeBytes caps.extendedDescribe describe).take count, own⟩ := by
  apply refused_of_error
  cases hrun : receiveDescribe sizes malloc caps
      ⟨(describeBytes caps.extendedDescribe describe).take count, own⟩ with
  | error status after => exact ⟨status, after, rfl⟩
  | ok value after =>
      have hwhole := extends_receiveDescribe _
        ((describeBytes caps.extendedDescribe describe).drop count) _ _ _ hrun
      have hleft : (describeBytes caps.extendedDescribe describe).drop count ≠
          [] := by
        rw [ne_eq, List.drop_eq_nil_iff]
        omega
      rw [List.take_append_drop] at hwhole
      rcases receiveDescribe_cases sizes malloc hfits [] own with
        ⟨assigned, htaken⟩ | ⟨status, found, hfailed⟩
      · rw [List.append_nil, hwhole] at htaken
        have hunread := congrArg (fun result => (stateOf result).unread) htaken
        exact absurd (List.append_eq_nil_iff.mp hunread).2 hleft
      · rw [List.append_nil, hwhole] at hfailed
        cases hfailed

theorem receiveDescribe_oversized (sizes : Sizes) (malloc : Nat → Bool)
    (hfits : describe.Fits caps.extendedDescribe)
    (hsize : descriptorMaxBytes < describe.retainedSize sizes)
    (later : List UInt8) (own : Drafting) :
    Refused sizes malloc caps
      ⟨describeBytes caps.extendedDescribe describe ++ later, own⟩ := by
  apply refused_of_error
  rcases receiveDescribe_cases sizes malloc hfits later own with
    ⟨assigned, hrun⟩ | herror
  · have hbudget := (@receiveDescribe_budget sizes malloc caps
      ⟨describeBytes caps.extendedDescribe describe ++ later, own⟩).1
    rw [hrun] at hbudget
    exact absurd hbudget (Nat.not_le.mpr hsize)
  · exact herror

/-- A DESCRIBE replaces what is published as a whole or not at all. -/
theorem receiveDescribe_atomic (sizes : Sizes) (malloc : Nat → Bool)
    (caps : Capabilities) :
    (∀ describe names rest later own, describe.Fits caps.extendedDescribe →
      describe.names = nameArea names ++ rest → (∀ name ∈ names, 0 ∉ name) →
      (rest = [] ∨ describe.fields.length ≤ names.length) →
      describe.retainedSize sizes ≤ descriptorMaxBytes →
      (∀ size, malloc size = true) →
        receiveDescribe sizes malloc caps
            ⟨describeBytes caps.extendedDescribe describe ++ later, own⟩ =
          .ok () ⟨later, own.described sizes caps describe
            (namesOf describe.fields.length names)⟩) ∧
    (∀ describe count own, describe.Fits caps.extendedDescribe →
      count < (describeBytes caps.extendedDescribe describe).length →
        Refused sizes malloc caps
          ⟨(describeBytes caps.extendedDescribe describe).take count, own⟩) ∧
    (∀ describe names rest later own, describe.Fits caps.extendedDescribe →
      describe.names = nameArea names ++ rest → (∀ name ∈ names, 0 ∉ name) →
      names.length < describe.fields.length → rest ≠ [] → 0 ∉ rest →
        Refused sizes malloc caps
          ⟨describeBytes caps.extendedDescribe describe ++ later, own⟩) ∧
    (∀ describe later own, describe.Fits caps.extendedDescribe →
      descriptorMaxBytes < describe.retainedSize sizes →
        Refused sizes malloc caps
          ⟨describeBytes caps.extendedDescribe describe ++ later, own⟩) ∧
    (∀ state status after,
      receiveDescribe sizes malloc caps state = .error status after →
        Refused sizes malloc caps state) ∧
    ∀ state,
      WithinBudget state.own.published
        (stateOf (receiveDescribe sizes malloc caps state)).own := by
  refine ⟨?_, ?_, ?_, ?_, ?_, receiveDescribe_budget⟩
  · intro describe names rest later own hfits harea hnames hrest hsize hgranted
    have hassigned : assignFieldNames describe.fields.length describe.names =
        some (namesOf describe.fields.length names) := by
      rw [harea, assignFieldNames_area hnames hrest]
    rcases @receiveDescribe_message sizes malloc caps own describe hfits _
      hassigned later with hrun | ⟨hshort, -⟩
    · exact hrun
    · exact absurd ⟨hgranted, hsize⟩ hshort
  · intro describe count own hfits hcount
    exact receiveDescribe_truncated sizes malloc hfits hcount own
  · intro describe names rest later own hfits harea hnames hcount hrest hopen
    refine refused_of_error (receiveDescribe_unterminated hfits ?_ later own)
    rw [harea, assignFieldNames_unterminated hnames hcount hrest hopen]
  · intro describe later own hfits hsize
    exact receiveDescribe_oversized sizes malloc hfits hsize later own
  · intro state status after hrun
    exact refused_of_error ⟨status, after, hrun⟩

/-- The sizes where pointers have eight octets. -/
def sizesLp64 : Sizes :=
  ⟨72, 104, 148, by decide, by decide, by decide⟩

/-- A SELECT of two columns, of which only the first one has a name; it is of a
type with the owner `abc`. -/
def twoFields : Describe :=
  ⟨2, 1, 0, 12,
    [⟨0, 0, 41, 10, 10, [97, 98, 99], [98, 108, 111, 98], 0, 4, 0⟩,
      ⟨1, 8, 2, 4, 0, [], [], 0, 4, 0⟩],
    nameArea [[100, 97, 116, 97]] ++ []⟩

def extendedCaps : Capabilities := ⟨true, true, true, false⟩

theorem twoFields_fits : twoFields.Fits true where
  fields_lt := by decide
  field_fits := by
    rintro field hfield
    simp only [twoFields, List.mem_cons, List.not_mem_nil, or_false] at hfield
    rcases hfield with rfl | rfl
    · exact ⟨by decide, by decide, nofun⟩
    · exact ⟨by decide, by decide, nofun⟩
  names_lt := by decide

theorem receiveDescribe_atomic_twoFields :
    receiveDescribe sizesLp64 (fun _ => true) extendedCaps
        ⟨describeBytes true twoFields ++ [0, 12], ⟨0, none, blankResult⟩⟩ =
      .ok () ⟨[0, 12], Drafting.described ⟨0, none, blankResult⟩ sizesLp64
        extendedCaps twoFields [some [100, 97, 116, 97], none]⟩ :=
  (receiveDescribe_atomic sizesLp64 (fun _ => true) extendedCaps).1 twoFields
    [[100, 97, 116, 97]] [] [0, 12] ⟨0, none, blankResult⟩ twoFields_fits rfl
    (by decide) (.inl rfl) (by decide) fun _ => rfl

end Libsqli.Receive
