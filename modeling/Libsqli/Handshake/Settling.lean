import Libsqli.Handshake.Connect

namespace Libsqli.Handshake

open Libsqli.Data.Program
open Libsqli.Data.Stream

/-! The strings that a handshake starts from. -/

def Fits (params : Params) (slot : Slot) : Prop :=
  ∀ text, params slot = some text → text.length < slot.size

/-- What copying the parameter leaves in the buffer. -/
def Strings.copied (params : Params) (strings : Strings) : Strings :=
  fun slot => (strCopy (strings slot) (params slot)).getD (strings slot)

def withStrings (strings : Strings) (state : Incoming Shaking) :
    Incoming Shaking :=
  { state with own := { state.own with
    conn := { state.own.conn with strings := strings } } }

variable {world : World} {params : Params} {state after : Incoming Shaking}
  {strings other : Strings} {slot : Slot}

theorem strCopy_eq_none_iff {size : Nat} {buffer : Text size}
    {source : Option (List UInt8)} :
    strCopy buffer source = none ↔
      ∃ text, source = some text ∧ size ≤ text.length := by
  cases source with
  | none => simp [strCopy]
  | some text => simp [strCopy]

theorem Strings.copied_of_none (hnone : params slot = none) :
    strings.copied params slot = strings slot := by
  unfold Strings.copied
  rw [hnone]
  rfl

theorem Strings.copied_of_some {text : List UInt8}
    (hsome : params slot = some text) (hfits : text.length < slot.size) :
    (strings.copied params slot).val = text := by
  unfold Strings.copied strCopy
  rw [hsome]
  dsimp only
  rw [dif_pos hfits]
  rfl

/-- A copy that is made twice leaves what it left at first. -/
theorem Strings.copied_of_copied
    (hcopied : other slot = strings.copied params slot) :
    other.copied params slot = strings.copied params slot := by
  unfold Strings.copied at hcopied ⊢
  rw [hcopied]
  cases params slot with
  | none => rfl
  | some text =>
      by_cases hfits : text.length < slot.size
      · simp [strCopy, hfits]
      · simp [strCopy, hfits]

theorem Strings.copied_of_same (hsame : other slot = strings slot) :
    other.copied params slot = strings.copied params slot := by
  unfold Strings.copied
  rw [hsame]

/-- A buffer keeps what is not overwritten. -/
theorem Strings.copied_eq_iff (hfits : Fits params slot) :
    strings.copied params slot = other.copied params slot ↔
      (params slot = none → strings slot = other slot) := by
  cases hsource : params slot with
  | none =>
      rw [copied_of_none hsource, copied_of_none hsource]
      exact ⟨fun heq _ => heq, fun heq => heq rfl⟩
  | some text =>
      refine ⟨nofun, fun _ => Subtype.ext ?_⟩
      rw [copied_of_some hsource (hfits text hsource),
        copied_of_some hsource (hfits text hsource)]

theorem copySlot_ok :
    copySlot params slot state = .ok () after ↔
      Fits params slot ∧ after = withStrings (Function.update
        state.own.conn.strings slot
          (state.own.conn.strings.copied params slot)) state := by
  unfold copySlot Strings.copied
  cases hcopy : strCopy (state.own.conn.strings slot) (params slot) with
  | none =>
      obtain ⟨text, hsource, hlong⟩ := strCopy_eq_none_iff.mp hcopy
      refine ⟨nofun, fun hafter => ?_⟩
      exact absurd (hafter.1 text hsource) (Nat.not_lt.mpr hlong)
  | some copied =>
      have hfits : Fits params slot := by
        intro text hsource
        by_contra hlong
        have hnone :
            strCopy (state.own.conn.strings slot) (params slot) = none :=
          strCopy_eq_none_iff.mpr ⟨text, hsource, Nat.not_lt.mp hlong⟩
        rw [hcopy] at hnone
        cases hnone
      constructor
      · intro hrun
        cases hrun
        exact ⟨hfits, rfl⟩
      · rintro ⟨-, rfl⟩
        rfl

def copiedOf (params : Params) (list : List Slot) (strings : Strings) :
    Strings := fun slot =>
  if slot ∈ list then strings.copied params slot else strings slot

/-- What the first copy leaves is what the others start from. -/
theorem copiedOf_cons (params : Params) (strings : Strings) (first : Slot)
    (rest : List Slot) :
    copiedOf params rest
        (Function.update strings first (strings.copied params first)) =
      copiedOf params (first :: rest) strings := by
  funext slot
  unfold copiedOf
  by_cases hfirst : slot = first
  · subst hfirst
    rw [if_pos List.mem_cons_self,
      Strings.copied_of_copied (Function.update_self ..),
      Function.update_self, ite_self]
  · have hsame : Function.update strings first
        (strings.copied params first) slot = strings slot :=
      Function.update_of_ne hfirst ..
    rw [Strings.copied_of_same hsame, hsame]
    simp only [List.mem_cons, hfirst, false_or]

/-- The buffers are copied one after the other, so it does not matter for one of
them what the others hold. -/
theorem copyStrings_ok (list : List Slot) :
    ∀ {state : Incoming Shaking}, copyStrings params list state = .ok () after ↔
      (∀ slot ∈ list, Fits params slot) ∧ after = withStrings
        (copiedOf params list state.own.conn.strings) state := by
  induction list with
  | nil =>
      intro state
      constructor
      · intro hrun
        cases hrun
        exact ⟨nofun, rfl⟩
      · rintro ⟨-, rfl⟩
        rfl
  | cons first rest ih =>
      intro state
      have hcopied := copiedOf_cons params state.own.conn.strings first rest
      unfold copyStrings
      rw [bind_eq_ok, List.forall_mem_cons, ← hcopied]
      constructor
      · rintro ⟨⟨⟩, middle, hfirst, hrest⟩
        obtain ⟨hfits, rfl⟩ := copySlot_ok.mp hfirst
        obtain ⟨hall, rfl⟩ := ih.mp hrest
        exact ⟨⟨hfits, hall⟩, rfl⟩
      · rintro ⟨⟨hfits, hall⟩, rfl⟩
        exact ⟨(), _, copySlot_ok.mpr ⟨hfits, rfl⟩, ih.mpr ⟨hall, rfl⟩⟩

theorem mem_slots (slot : Slot) : slot ∈ slots := by
  cases slot <;> decide

/-- All strings are copied. -/
theorem copyStrings_slots_ok :
    copyStrings params slots state = .ok () after ↔
      (∀ slot, Fits params slot) ∧ after = withStrings
        (state.own.conn.strings.copied params) state := by
  have hall : copiedOf params slots state.own.conn.strings =
      state.own.conn.strings.copied params :=
    funext fun slot => if_pos (mem_slots slot)
  rw [copyStrings_ok, hall]
  exact and_congr_left fun _ =>
    ⟨fun hfits slot => hfits slot (mem_slots slot), fun hfits slot _ => hfits slot⟩

/-! The local user. -/

variable {user : Option (List UInt8)} {final : Strings}

theorem localName_empty_eq_iff {kept name : Text 256}
    (hname : localName user kept = some name) :
    localName user ⟨[], by decide⟩ = some name ↔
      kept.val = [] ∨ user = some kept.val := by
  by_cases hempty : kept.val = []
  · have hkept : kept = ⟨[], by decide⟩ := Subtype.ext hempty
    subst hkept
    exact ⟨fun _ => Or.inl rfl, fun _ => hname⟩
  · unfold localName at hname ⊢
    rw [if_neg hempty] at hname
    cases hname
    rw [if_pos rfl]
    cases user with
    | none =>
        refine ⟨fun hcopy => ?_, fun hkept => ?_⟩
        · cases hcopy
          exact absurd rfl hempty
        · exact absurd (hkept.resolve_right nofun) hempty
    | some text =>
        constructor
        · intro hcopy
          unfold strCopy at hcopy
          dsimp only at hcopy
          split at hcopy
          · cases hcopy
            exact Or.inr rfl
          · cases hcopy
        · intro hkept
          cases hkept.resolve_left hempty
          exact dif_pos kept.property

theorem localized_of_path (hpath : strings.isPath) :
    strings.localized user =
      (localName user (strings .username)).map fun name => Function.update
        (Function.update strings .username name) .password ⟨[], by decide⟩ :=
  if_pos hpath

theorem localized_apply (hfinal : strings.localized user = some final)
    (hname : slot ≠ .username) (hpassword : slot ≠ .password) :
    final slot = strings slot := by
  unfold Strings.localized at hfinal
  split at hfinal
  · obtain ⟨name, -, rfl⟩ := Option.map_eq_some_iff.mp hfinal
    rw [Function.update_of_ne hpassword, Function.update_of_ne hname]
  · cases hfinal
    rfl

theorem localized_username (hpath : strings.isPath)
    (hfinal : strings.localized user = some final) :
    localName user (strings .username) = some (final .username) := by
  rw [localized_of_path hpath] at hfinal
  obtain ⟨name, hname, rfl⟩ := Option.map_eq_some_iff.mp hfinal
  exact hname

theorem localized_password (hpath : strings.isPath)
    (hfinal : strings.localized user = some final) :
    final .password = ⟨[], by decide⟩ := by
  rw [localized_of_path hpath] at hfinal
  obtain ⟨name, -, rfl⟩ := Option.map_eq_some_iff.mp hfinal
  exact Function.update_self ..

/-- The same strings are sent for two sets of strings. -/
theorem localized_eq_iff (hpath : other.isPath = strings.isPath)
    (hfinal : strings.localized user = some final) :
    other.localized user = some final ↔
      ∀ slot, other slot = strings slot ∨ strings.isPath ∧
        (slot = .password ∨ slot = .username ∧
          localName user (other .username) = some (final .username)) := by
  by_cases hunix : strings.isPath
  · have hother : other.isPath := hpath.trans hunix
    constructor
    · intro hlocal slot
      by_cases hpassword : slot = .password
      · exact Or.inr ⟨hunix, Or.inl hpassword⟩
      · by_cases hname : slot = .username
        · exact Or.inr
            ⟨hunix, Or.inr ⟨hname, localized_username hother hlocal⟩⟩
        · rw [← localized_apply hlocal hname hpassword,
            ← localized_apply hfinal hname hpassword]
          exact Or.inl rfl
    · intro hslots
      have hname :
          localName user (other .username) = some (final .username) := by
        rcases hslots .username with hsame | hcovered
        · rw [hsame]
          exact localized_username hunix hfinal
        · rcases hcovered.2 with hfalse | hname
          · cases hfalse
          · exact hname.2
      rw [localized_of_path hother]
      refine Option.map_eq_some_iff.mpr ⟨_, hname, funext fun slot => ?_⟩
      by_cases hpassword : slot = .password
      · subst hpassword
        rw [Function.update_self, localized_password hunix hfinal]
      · rw [Function.update_of_ne hpassword]
        by_cases huser : slot = .username
        · subst huser
          exact Function.update_self ..
        · rw [Function.update_of_ne huser,
            localized_apply hfinal huser hpassword]
          refine (hslots slot).resolve_right fun hcovered => ?_
          exact hcovered.2.elim hpassword fun hnamed => huser hnamed.1
  · have hother : ¬ other.isPath := hpath ▸ hunix
    unfold Strings.localized at hfinal ⊢
    rw [if_neg hunix] at hfinal
    cases hfinal
    rw [if_neg hother, Option.some_inj]
    constructor
    · rintro rfl slot
      exact Or.inl rfl
    · intro hslots
      exact funext fun slot =>
        (hslots slot).resolve_right fun hcovered => hunix hcovered.1

def Params.isPath (params : Params) : Bool :=
  (params .service).any fun service => service.head? == some 47

theorem copied_isPath (hfits : Fits params .service)
    (hservice : params .service ≠ none) :
    (strings.copied params).isPath = Params.isPath params := by
  obtain ⟨service, hsome⟩ := Option.ne_none_iff_exists'.mp hservice
  unfold Strings.isPath Params.isPath
  rw [Strings.copied_of_some hsome (hfits service hsome), hsome]
  rfl

/-- With a Unix socket, the password of a connection is not sent, and its user is
the local one where they are the same. -/
def Covered (world : World) (params : Params) (strings : Strings)
    (slot : Slot) : Prop :=
  Params.isPath params ∧ (slot = .password ∨
    slot = .username ∧ world.localUser = some (strings slot).val)

/-- When a connection sends what a new one would send. -/
theorem localized_empty_iff (hfits : ∀ slot, Fits params slot)
    (hservice : params .service ≠ none)
    (hfinal : (strings.copied params).localized world.localUser = some final) :
    (Strings.empty.copied params).localized world.localUser = some final ↔
      ∀ slot, params slot = none →
        (strings slot).val = [] ∨ Covered world params strings slot := by
  have hpath : Strings.isPath (strings.copied params) = Params.isPath params :=
    copied_isPath (hfits .service) hservice
  have hempty {slot : Slot} (hnone : params slot = none) :
      Strings.empty.copied params slot = strings.copied params slot ↔
        (strings slot).val = [] := by
    rw [Strings.copied_of_none hnone, Strings.copied_of_none hnone]
    exact ⟨fun heq => congrArg Subtype.val heq.symm,
      fun heq => Subtype.ext heq.symm⟩
  have hname (hunix : Params.isPath params)
      (hnone : params .username = none) :
      localName world.localUser (Strings.empty.copied params .username) =
        some (final .username) ↔
      (strings .username).val = [] ∨
        world.localUser = some (strings .username).val := by
    have hkept := localized_username (hpath.trans hunix) hfinal
    rw [Strings.copied_of_none hnone] at hkept ⊢
    exact localName_empty_eq_iff hkept
  rw [localized_eq_iff ((copied_isPath (hfits .service) hservice).trans
    hpath.symm) hfinal, hpath]
  refine forall_congr' fun slot => ?_
  cases hsource : params slot with
  | some text =>
      exact ⟨fun _ => nofun, fun _ => Or.inl
        ((Strings.copied_eq_iff (hfits slot)).mpr fun hnone => by
          rw [hsource] at hnone
          cases hnone)⟩
  | none =>
      rw [hempty hsource]
      unfold Covered
      constructor
      · rintro (hkept | ⟨hunix, hpassword | ⟨rfl, huser⟩⟩) -
        · exact Or.inl hkept
        · exact Or.inr ⟨hunix, Or.inl hpassword⟩
        · exact ((hname hunix hsource).mp huser).imp_right fun hlocal =>
            ⟨hunix, Or.inr ⟨rfl, hlocal⟩⟩
      · intro hslot
        rcases hslot rfl with hkept | ⟨hunix, hpassword | ⟨rfl, hlocal⟩⟩
        · exact Or.inl hkept
        · exact Or.inr ⟨hunix, Or.inl hpassword⟩
        · exact Or.inr ⟨hunix, Or.inr
            ⟨rfl, (hname hunix hsource).mpr (Or.inr hlocal)⟩⟩

/-! The step as a whole. -/

/-- What a connection is once its strings are settled. -/
def Connection.settled (world : World) (strings : Strings)
    (conn : Connection) : Connection :=
  resetReading world { conn with strings := strings }

theorem localUser_ok :
    localUser world state = .ok () after ↔ ∃ final,
      state.own.conn.strings.localized world.localUser = some final ∧
        after = withStrings final state := by
  unfold localUser
  cases state.own.conn.strings.localized world.localUser with
  | none => exact ⟨nofun, fun ⟨_, hsome, _⟩ => nomatch hsome⟩
  | some final =>
      constructor
      · intro hrun
        cases hrun
        exact ⟨final, rfl, rfl⟩
      · rintro ⟨found, hfound, rfl⟩
        cases hfound
        rfl

/-- The locales of a connection are not changed any more once they are copied. -/
theorem settled_of_localized
    (hfinal : strings.localized user = some final) (conn : Connection) :
    { resetReading world { conn with strings := strings } with
        strings := final } = conn.settled world final := by
  unfold Connection.settled resetReading
  dsimp only
  have hclient : final .clientLocale = strings .clientLocale :=
    localized_apply hfinal nofun nofun
  have hdb : final .dbLocale = strings .dbLocale :=
    localized_apply hfinal nofun nofun
  rw [hclient, hdb]

theorem settle_ok :
    settle world params state = .ok () after ↔
      (∀ slot, Fits params slot) ∧ ∃ final,
        (state.own.conn.strings.copied params).localized world.localUser =
          some final ∧
        after = { state with own := { state.own with
          conn := state.own.conn.settled world final } } := by
  unfold settle
  rw [bind_eq_ok]
  constructor
  · rintro ⟨⟨⟩, middle, hcopy, hbehind⟩
    obtain ⟨hfits, rfl⟩ := copyStrings_slots_ok.mp hcopy
    obtain ⟨⟨⟩, reset, hreset, hlocal⟩ := bind_eq_ok.mp hbehind
    cases hreset
    obtain ⟨final, hfinal, rfl⟩ := localUser_ok.mp hlocal
    refine ⟨hfits, final, hfinal, ?_⟩
    rw [← settled_of_localized hfinal]
    rfl
  · rintro ⟨hfits, final, hfinal, rfl⟩
    refine ⟨(), _, copyStrings_slots_ok.mpr ⟨hfits, rfl⟩, ?_⟩
    refine bind_eq_ok.mpr ⟨(), _, rfl, localUser_ok.mpr ⟨final, hfinal, ?_⟩⟩
    rw [← settled_of_localized hfinal]
    rfl

end Libsqli.Handshake
