import Libsqli.Session.Statement

namespace Libsqli.Session

open Libsqli.Data.Program
open Libsqli.Receive

/-! The same connection with two results. -/

variable {caps : Capabilities} {left right : Result}

def Beside (left right : Result) (client other : Client) : Prop :=
  ∃ base : Client, client = base.withResult left ∧
    other = base.withResult right

/-- A change that sees no result. -/
theorem Beside.update {change : Client → Client}
    (hchange : ∀ client result, change (Client.withResult client result) =
      (change client).withResult result) :
    Respects (Beside left right) (update change) := by
  rintro _ _ ⟨base, rfl, rfl⟩
  exact ⟨rfl, change base, hchange base left, hchange base right⟩

theorem Beside.check {status : Client → Status}
    (hstatus : ∀ client result, status (Client.withResult client result) =
      status client) : Respects (Beside left right) (check status) := by
  rintro _ _ ⟨base, rfl, rfl⟩
  unfold Session.check
  rw [hstatus, hstatus]
  split
  · exact ⟨rfl, base, rfl, rfl⟩
  · rfl

theorem Beside.request (wanted : Request) :
    Respects (Beside left right) (request wanted) := by
  rintro _ _ ⟨base, rfl, rfl⟩
  unfold Session.request
  have hsends (result : Result) :
      (base.withResult result).sends 0 = base.sends 0 := rfl
  rw [hsends, hsends]
  cases base.sends 0 with
  | ok => exact ⟨rfl, base.answered wanted, rfl, rfl⟩
  | _ => rfl

/-- A throw-away result is the same for both. -/
theorem Beside.aside (program : Exchange α) :
    Respects (Beside left right) (aside program) := by
  rintro _ _ ⟨base, rfl, rfl⟩
  unfold Session.aside
  have hblank : ∀ result, (base.withResult result).withResult blankResult =
      base.withResult blankResult := fun _ => rfl
  rw [hblank, hblank]
  cases program (base.withResult blankResult) with
  | ok value after =>
      exact ⟨rfl, { after with taken := base.taken }, rfl, rfl⟩
  | error status after => rfl

theorem Beside.begin : Respects (Beside left right) (begin caps) :=
  (Beside.check fun _ _ => rfl).bind fun _ =>
    (Beside.check fun _ _ => rfl).bind fun _ =>
      (Beside.request .begin).bind fun _ =>
        (Beside.aside _).bind fun _ => Beside.update fun _ _ => rfl

def Client.withRetained (client : Client) (kept : Retained) : Client :=
  { client with scene := client.scene.withRetained kept }

/-- Each result is the same but for what it has kept from before, as far as the
messages taken since have left it. -/
def Twin (caps : Capabilities) (left right : Retained)
    (client other : Client) : Prop :=
  ∃ base : Client,
    client = base.withRetained (absorbAll caps base.taken left) ∧
      other = base.withRetained (absorbAll caps base.taken right)

variable {earlier later : Retained} {client other : Client}

theorem Twin.rowCount (htwin : Twin caps earlier later client other) :
    client.rowCount = other.rowCount := by
  obtain ⟨base, rfl, rfl⟩ := htwin
  rfl

theorem Twin.update {change : Client → Client}
    (hchange : ∀ client kept, change (Client.withRetained client kept) =
      (change client).withRetained kept)
    (htaken : ∀ client, (change client).taken = client.taken) :
    Respects (Twin caps earlier later) (update change) := by
  rintro _ _ ⟨base, rfl, rfl⟩
  refine ⟨rfl, change base, ?_, ?_⟩ <;> rw [hchange, htaken]

theorem Twin.request (wanted : Request) :
    Respects (Twin caps earlier later) (request wanted) := by
  rintro _ _ ⟨base, rfl, rfl⟩
  unfold Session.request
  have hsends (kept : Retained) :
      (base.withRetained kept).sends 0 = base.sends 0 := rfl
  rw [hsends, hsends]
  cases base.sends 0 with
  | ok => exact ⟨rfl, base.answered wanted, rfl, rfl⟩
  | _ => rfl

/-- A reception that writes the kept part without reading it. -/
theorem Twin.reception {taking : Client → List Message}
    {reception : Client → Reception}
    (htaking : ∀ client kept, taking (Client.withRetained client kept) =
      taking client)
    (hreception : ∀ client kept,
      reception (Client.withRetained client kept) =
        ⟨(reception client).status, (reception client).messages,
          (reception client).scene.withRetained
            (absorbAll caps (taking client) kept)⟩)
    (hghost : ∀ client messages, reception (Client.took client messages) =
      reception client) :
    Respects (Twin caps earlier later) (do
      Session.update fun client => client.took (taking client)
      ofReception reception) := by
  rintro _ _ ⟨base, rfl, rfl⟩
  have hrun : ∀ kept, (do
      Session.update fun client => client.took (taking client)
      ofReception reception : Exchange Unit) (base.withRetained kept) =
        if (reception base).status = .ok then
          .ok () (((base.took (taking base)).after
            (reception base)).withRetained
              (absorbAll caps (taking base) kept))
        else .error (reception base).status
          (((base.took (taking base)).after (reception base)).withRetained
            (absorbAll caps (taking base) kept)) := by
    intro kept
    rw [bind_apply]
    change ofReception reception
      ((base.withRetained kept).took (taking (base.withRetained kept))) = _
    unfold ofReception
    rw [hghost, hreception]
    dsimp only
    rw [htaking]
    rfl
  rw [hrun, hrun]
  split
  · refine ⟨rfl, (base.took (taking base)).after (reception base), ?_, ?_⟩
    · change _ = Client.withRetained _
        (absorbAll caps (base.taken ++ taking base) earlier)
      unfold absorbAll
      rw [List.foldl_append]
    · change _ = Client.withRetained _
        (absorbAll caps (base.taken ++ taking base) later)
      unfold absorbAll
      rw [List.foldl_append]
  · rfl

theorem Twin.receive {context : Context} (hcontext : context ≠ .prepareRecv) :
    Respects (Twin caps earlier later) (receive caps context) :=
  Twin.reception
    (fun client kept => (@receiveDispatch_withRetained caps context
      client.incoming client.scene kept hcontext).1)
    (fun client kept => (@receiveDispatch_withRetained caps context
      client.incoming client.scene kept hcontext).2) fun _ _ => rfl

theorem Twin.receiveExecute :
    Respects (Twin caps earlier later) (receiveExecute caps) :=
  Twin.reception
    (fun client kept => (@receiveDispatch_withRetained caps .otherRecv
      client.incoming (client.scene.withResult (rearm client.result)) kept
        nofun).1)
    (fun _ _ => receiveExecuteResult_withRetained) fun _ _ => rfl

theorem Twin.fetchRound :
    Respects (Twin caps earlier later) (fetchRound caps) := by
  have hclear : Respects (Twin caps earlier later)
      (updateResult clearFlags) := Twin.update (fun _ _ => rfl) fun _ => rfl
  have hreceive : Respects (Twin caps earlier later)
      (Session.receive caps .fetchRecv) := Twin.receive nofun
  exact hclear.bind fun _ => hreceive

theorem Twin.nextFetch (stmtId : Int) :
    Respects (Twin caps earlier later) (nextFetch stmtId) := by
  have hclear : Respects (Twin caps earlier later)
      (updateResult clearEof) := Twin.update (fun _ _ => rfl) fun _ => rfl
  exact hclear.bind fun _ => Twin.request _

theorem Twin.fetchLoop (stmtId : Int) :
    Respects (Twin caps earlier later) (fetchLoop caps stmtId) :=
  fetchLoop_respects Twin.fetchRound (Twin.nextFetch stmtId)
    fun _ _ htwin => htwin.rowCount

end Libsqli.Session
