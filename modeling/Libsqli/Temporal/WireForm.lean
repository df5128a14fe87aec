import Libsqli.Temporal.Groups

namespace Libsqli.Temporal

open Libsqli.Base100
open Libsqli.Data.Radix

/-! Alignment of the coefficient with the fields of the range. -/

theorem alignFrom_append (before rest : List Nat) (room : Nat) :
    alignFrom (before.length + room) before.length rest
        (before ++ List.replicate room 0) =
      if ∀ group ∈ rest.drop room, group = 0 then
        some (before ++ rest.take room ++
          List.replicate (room - rest.length) 0)
      else none := by
  induction rest generalizing before room with
  | nil => simp [alignFrom]
  | cons group rest ih =>
      cases room with
      | zero =>
          have hstep := ih before 0
          have hslot : ∀ (slot : Int), before.length ≤ slot →
              alignFrom before.length slot rest before =
                if ∀ group ∈ rest, group = 0 then some before else none := by
            intro slot hslot
            clear ih hstep
            induction rest generalizing slot with
            | nil => simp [alignFrom]
            | cons other tail ihTail =>
                rw [alignFrom, if_pos (Or.inr hslot), ihTail _ (by omega)]
                by_cases hzero : other = 0 <;> simp [hzero]
          simp only [Nat.add_zero, List.replicate_zero, List.append_nil,
            List.drop_zero, List.take_zero, Nat.zero_sub]
          rw [alignFrom, if_pos (Or.inr (le_refl _)), hslot _ (by omega)]
          by_cases hzero : group = 0 <;> simp [hzero]
      | succ room =>
          have hset : (before ++ List.replicate (room + 1) 0).set
              before.length group =
                before ++ [group] ++ List.replicate room 0 := by
            rw [List.set_append_right _ _ (le_refl _), Nat.sub_self,
              List.replicate_succ, List.set_cons_zero, List.append_assoc]
            rfl
          have hstep := ih (before ++ [group]) room
          simp only [List.length_append, List.length_singleton] at hstep
          rw [alignFrom, if_neg (by omega), Int.toNat_natCast, hset,
            show before.length + (room + 1) = before.length + 1 + room by omega,
            show (before.length : Int) + 1 = (before.length + 1 : Nat) by
              push_cast; rfl, hstep]
          simp [List.append_assoc]

theorem alignFrom_outside {count : Nat} {slot : Int} (hgroup : group ≠ 0)
    (hslot : slot < 0 ∨ count ≤ slot) :
    alignFrom count slot (group :: rest) aligned = none := by
  rw [alignFrom, if_pos hslot, if_pos hgroup]

theorem alignFrom_eq_some_iff {coefficient : List Nat}
    (hhead : coefficient.headD 0 ≠ 0) :
    alignFrom coefficient.length offset coefficient
        (List.replicate coefficient.length 0) = some aligned ↔
      ∃ (lead : Nat) (body : List Nat), offset = lead ∧
        coefficient = body ++ List.replicate lead 0 ∧
        aligned = List.replicate lead 0 ++ body := by
  have hinside : ∀ lead ≤ coefficient.length,
      alignFrom coefficient.length lead coefficient
        (List.replicate coefficient.length 0) =
      if ∀ group ∈ coefficient.drop (coefficient.length - lead), group = 0 then
        some (List.replicate lead 0 ++
          coefficient.take (coefficient.length - lead))
      else none := by
    intro lead hlead
    have happend := alignFrom_append (List.replicate lead 0) coefficient
      (coefficient.length - lead)
    rw [List.length_replicate, Nat.add_sub_cancel' hlead,
      List.replicate_append_replicate, Nat.add_sub_cancel' hlead] at happend
    rw [happend, Nat.sub_eq_zero_of_le (Nat.sub_le _ _)]
    simp
  constructor
  · intro halign
    have hrange : 0 ≤ offset ∧ offset < coefficient.length := by
      by_contra hout
      cases coefficient with
      | nil => simp at hhead
      | cons group rest =>
          have hgroup : group ≠ 0 := by simpa using hhead
          have hslot : offset < 0 ∨ (group :: rest).length ≤ offset := by
            omega
          rw [alignFrom_outside hgroup hslot] at halign
          cases halign
    obtain ⟨lead, rfl⟩ := Int.eq_ofNat_of_zero_le hrange.1
    rw [hinside lead (by omega)] at halign
    split at halign
    · rename_i hzero
      refine ⟨lead, coefficient.take (coefficient.length - lead), rfl, ?_,
        (Option.some.inj halign).symm⟩
      have htail := List.eq_replicate_of_mem hzero
      rw [List.length_drop, show coefficient.length -
        (coefficient.length - lead) = lead by omega] at htail
      rw [← htail, List.take_append_drop]
    · cases halign
  · rintro ⟨lead, body, rfl, hcoefficient, rfl⟩
    have hlength : coefficient.length - lead = body.length := by
      rw [hcoefficient]
      simp
    rw [hinside lead (by rw [hcoefficient]; simp), hlength, hcoefficient]
    simp

/-! Groups and payload bytes. -/

theorem exists_body {groups : List Nat} (hnonzero : ¬ ∀ group ∈ groups, group = 0) :
    ∃ lead body, groups = List.replicate lead 0 ++ body ∧
      body.headD 0 ≠ 0 := by
  induction groups with
  | nil => simp at hnonzero
  | cons group rest ih =>
      by_cases hzero : group = 0
      · obtain ⟨lead, body, hrest, hbody⟩ := ih (by
          intro hall
          exact hnonzero (by simpa [hzero] using hall))
        refine ⟨lead + 1, body, ?_, hbody⟩
        rw [hzero, hrest, List.replicate_succ, List.cons_append]
      · exact ⟨0, group :: rest, rfl, by simpa using hzero⟩

theorem dropWhile_lead {body : List Nat} (hbody : body.headD 0 ≠ 0) :
    (List.replicate lead 0 ++ body).dropWhile (· = 0) = body := by
  induction lead with
  | zero =>
      cases body with
      | nil => rfl
      | cons group rest =>
          have hgroup : group ≠ 0 := by simpa using hbody
          simp [hgroup]
  | succ lead ih =>
      rw [List.replicate_succ, List.cons_append, List.dropWhile_cons_of_pos
        (by simp), ih]

theorem packedBytes_body {range : WireRange} {body : List Nat}
    (hbody : body.headD 0 ≠ 0) (hwidth : lead + body.length = range.width - 1) :
    packedBytes negative range (List.replicate lead 0 ++ body) =
      encodeHeader negative (range.exponent - lead) ::
        groupBytes (codeGroups negative (body ++ List.replicate lead 0)) := by
  have hne : body ≠ [] := by
    rintro rfl
    simp at hbody
  rw [packedBytes, dropWhile_lead hbody]
  simp only [if_neg hne, List.length_append, List.length_replicate,
    Nat.add_sub_cancel]
  rw [show range.width - 1 - body.length = lead by omega]

theorem packedBytes_zero {groups : List Nat}
    (hzero : ∀ group ∈ groups, group = 0) :
    packedBytes negative range groups =
      zeroMarker :: List.replicate (range.width - 1) 0 := by
  have hdrop : groups.dropWhile (· = 0) = [] := by
    simpa using hzero
  rw [packedBytes, hdrop]
  rfl

theorem codeGroups_positive_marker (groups : List Nat) :
    plainGroups zeroMarker groups = groups := rfl

/-- A zero value has no sign on the wire. -/
def SignOk (negative : Bool) (groups : List Nat) : Prop :=
  (∀ group ∈ groups, group = 0) → negative = false

theorem readFields_zero :
    readFields range fields (List.replicate count 0) (fun _ => 0) =
      (fun _ => 0,
        List.replicate (count - fieldsWidth range fields) 0) := by
  induction fields generalizing count with
  | nil => simp [readFields, fieldsWidth]
  | cons field rest ih =>
      have hupdate : Function.update (fun _ : Nat => 0) field 0 =
          fun _ => 0 := Function.update_eq_self field _
      rw [readFields, foldl_eq_ofBigEndian, List.take_replicate,
        List.drop_replicate, ofBigEndian_replicate_zero, hupdate, ih,
        Nat.sub_sub]
      rfl

theorem readAligned_zero :
    readAligned range negative (List.replicate count 0) =
      .ok ⟨fun _ => 0, 0, negative, false⟩ := by
  have hpower : ¬ 10 ^ range.leadingDigits ≤ 0 := by
    have : 0 < 10 ^ range.leadingDigits := by positivity
    omega
  simp [readAligned, readFields_zero, foldl_eq_ofBigEndian,
    List.take_replicate]

theorem unpack_packedBytes {range : WireRange} (hvalid : range.Valid interval)
    {groups : List Nat} (hgroups : ∀ group ∈ groups, group < radix)
    (hlength : groups.length = range.width - 1)
    (hsign : SignOk negative groups) :
    unpack (packedBytes negative range groups) range =
      readAligned range negative groups := by
  have hwidth : 0 < range.width := by
    rw [hvalid.width_eq]
    omega
  by_cases hzero : ∀ group ∈ groups, group = 0
  · rw [packedBytes_zero hzero, hsign hzero, List.eq_replicate_of_mem hzero,
      readAligned_zero]
    have hreceived : byteGroups (List.replicate (range.width - 1) 0) =
        List.replicate (range.width - 1) 0 := by simp [byteGroups]
    rw [unpack, if_neg (by simp; omega), if_neg (by simp [zeroMarker]),
      List.headD_cons, List.tail_cons, hreceived, unpackGroups,
      codeGroups_positive_marker, if_neg (by simp [radix]),
      if_pos fun group member => List.eq_of_mem_replicate member]
    rfl
  obtain ⟨lead, body, rfl, hbody⟩ := exists_body hzero
  rw [List.length_append, List.length_replicate] at hlength
  have hcoefficient : ∀ group ∈ body ++ List.replicate lead 0,
      group < radix := by
    intro group member
    exact hgroups group (by simpa [or_comm] using member)
  have hhead : (body ++ List.replicate lead 0).headD 0 ≠ 0 := by
    cases body with
    | nil => simp at hbody
    | cons group rest => simpa using hbody
  have hnonzero : ¬ ∀ group ∈ body ++ List.replicate lead 0, group = 0 := by
    intro hall
    cases body with
    | nil => simp at hbody
    | cons group rest => exact hhead (hall group (by simp))
  have hpositive : 0 < ofBigEndian radix (body ++ List.replicate lead 0) :=
    Nat.pos_of_ne_zero fun hvalue =>
      hnonzero ((ofBigEndian_eq_zero_iff (by decide)).mp hvalue)
  have hcoded := codeGroups_lt negative hcoefficient
  have hmin : exponentMin ≤ range.exponent - lead := by
    have := hvalid.exponent_lower
    have := hvalid.width_le
    simp only [exponentMin, wireCapacity] at *
    omega
  have hmax : range.exponent - lead ≤ exponentMax := by
    have := hvalid.exponent_upper
    simp only [exponentMax]
    omega
  have hexponent := header_encode_decode negative hmin hmax
  rw [packedBytes_body hbody hlength]
  have hbytes : ¬ ∀ byte ∈ encodeHeader negative (range.exponent - lead) ::
      groupBytes (codeGroups negative (body ++ List.replicate lead 0)),
        byte = 0 := by
    intro hall
    have hvalue := codeGroups_value_pos negative hcoefficient hpositive
    rw [← byteGroups_groupBytes hcoded] at hvalue
    refine absurd ((ofBigEndian_eq_zero_iff (by decide)).mpr ?_)
      (Nat.ne_of_gt hvalue)
    intro group member
    obtain ⟨byte, hbyte, rfl⟩ := List.mem_map.mp member
    rw [hall byte (List.mem_cons_of_mem _ hbyte)]
    rfl
  have hplain : plainGroups (encodeHeader negative (range.exponent - lead))
      (codeGroups negative (body ++ List.replicate lead 0)) =
        body ++ List.replicate lead 0 := by
    rw [plainGroups, hexponent.1, codeGroups_involutive negative hcoefficient]
  rw [unpack, if_neg (by
    simp only [List.length_cons, length_groupBytes, length_codeGroups,
      List.length_append, List.length_replicate, ne_eq, not_not]
    omega), if_neg hbytes, List.headD_cons, List.tail_cons,
    byteGroups_groupBytes hcoded, unpackGroups, hplain, if_neg (by
    rintro ⟨group, member, hle⟩
    exact absurd (hcoded group member) (by omega)), if_neg hnonzero,
    if_neg hhead, hexponent.2, hexponent.1,
    (alignFrom_eq_some_iff hhead).mpr ⟨lead, body, by omega, rfl, rfl⟩]

/-- A rejected payload is always malformed data. -/
theorem unpack_error (hunpack : unpack bytes range = .error status) :
    status = .protoError := by
  have hread : ∀ {negative groups},
      readAligned range negative groups = .error status →
        status = .protoError := by
    intro negative groups hread
    unfold readAligned at hread
    simp only at hread
    split at hread
    · exact (Except.error.inj hread).symm
    split at hread
    · exact (Except.error.inj hread).symm
    · cases hread
  unfold unpack at hunpack
  split at hunpack
  · exact (Except.error.inj hunpack).symm
  split at hunpack
  · cases hunpack
  unfold unpackGroups at hunpack
  split at hunpack
  · exact (Except.error.inj hunpack).symm
  split at hunpack
  · split at hunpack
    · cases hunpack
    · exact (Except.error.inj hunpack).symm
  split at hunpack
  · exact (Except.error.inj hunpack).symm
  split at hunpack
  · exact (Except.error.inj hunpack).symm
  · exact hread hunpack

theorem unpack_ok {range : WireRange}
    (hunpack : unpack bytes range = .ok fields) :
    (bytes = List.replicate range.width 0 ∧
      fields = ⟨fun _ => 0, 0, false, true⟩) ∨
    ∃ groups, (∀ group ∈ groups, group < radix) ∧
      groups.length = range.width - 1 ∧ SignOk fields.negative groups ∧
      readAligned range fields.negative groups = .ok fields ∧
      bytes = packedBytes fields.negative range groups := by
  unfold unpack at hunpack
  split at hunpack
  · cases hunpack
  rename_i hlength
  rw [ne_eq, not_not] at hlength
  split at hunpack
  · rename_i hzero
    exact .inl ⟨hlength ▸ List.eq_replicate_of_mem hzero,
      (Except.ok.inj hunpack).symm⟩
  rename_i hbytes
  right
  cases bytes with
  | nil => simp at hbytes
  | cons header tail =>
      rw [List.headD_cons, List.tail_cons, unpackGroups] at hunpack
      rw [List.length_cons] at hlength
      split at hunpack
      · cases hunpack
      rename_i hrange
      have hreceived : ∀ group ∈ byteGroups tail, group < radix :=
        fun group member =>
          Nat.lt_of_not_le fun hle => hrange ⟨group, member, hle⟩
      have hplain := codeGroups_lt (headerNegative header) hreceived
      have hcount : (plainGroups header (byteGroups tail)).length =
          range.width - 1 := by
        simp [plainGroups]
        omega
      split at hunpack
      · rename_i hzero
        split at hunpack
        · rename_i hmarker
          subst header
          rw [codeGroups_positive_marker] at hzero
          obtain rfl := Except.ok.inj hunpack
          refine ⟨byteGroups tail, hreceived, by simpa using hcount,
            fun _ => rfl, ?_, ?_⟩
          · rw [List.eq_replicate_of_mem hzero]
            exact readAligned_zero
          · rw [packedBytes_zero hzero, ← hcount, length_codeGroups]
            congr 1
            have htail := congrArg groupBytes (List.eq_replicate_of_mem hzero)
            rw [groupBytes_byteGroups] at htail
            rw [htail]
            simp [groupBytes]
        · cases hunpack
      rename_i hnonzero
      split at hunpack
      · cases hunpack
      rename_i hhead
      split at hunpack
      · cases hunpack
      rename_i aligned halign
      obtain ⟨lead, body, hoffset, hcoefficient, rfl⟩ :=
        (alignFrom_eq_some_iff hhead).mp halign
      have hbody : body.headD 0 ≠ 0 := by
        cases body with
        | nil =>
            rw [hcoefficient] at hhead
            cases lead <;> simp [List.replicate_succ] at hhead
        | cons group rest =>
            rw [hcoefficient] at hhead
            simpa using hhead
      have hnegative : fields.negative = headerNegative header := by
        unfold readAligned at hunpack
        simp only at hunpack
        split at hunpack
        · cases hunpack
        split at hunpack
        · cases hunpack
        · rw [← Except.ok.inj hunpack]
      have hsplit : lead + body.length = range.width - 1 := by
        rw [hcoefficient, List.length_append, List.length_replicate] at hcount
        omega
      refine ⟨List.replicate lead 0 ++ body, ?_, by simpa using hsplit, ?_,
        hnegative ▸ hunpack, ?_⟩
      · intro group member
        refine hplain group ?_
        have hmember : group ∈ body ++ List.replicate lead 0 := by
          simpa [or_comm] using member
        rw [← hcoefficient] at hmember
        exact hmember
      · intro hall
        cases body with
        | nil => simp at hbody
        | cons group rest =>
            exact absurd (hall group (by simp)) (by simpa using hbody)
      · rw [packedBytes_body hbody hsplit, hnegative, ← hcoefficient,
          show range.exponent - (lead : Int) = headerExponent header by omega,
          (header_decode_encode header).1, plainGroups,
          codeGroups_involutive _ hreceived, groupBytes_byteGroups]

end Libsqli.Temporal
