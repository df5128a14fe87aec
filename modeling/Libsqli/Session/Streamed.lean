import Libsqli.Result.Reading
import Libsqli.Session.Materialized
import Libsqli.Session.Stream

namespace Libsqli.Session

open Libsqli.Data.Program
open Libsqli.Receive

/-! The delivery of the rows of one group. -/

/-- A result whose rows have yet to be read. -/
structure Unread (result : Result) : Prop where
  next : result.NextRow 0
  sound : result.fetchStatus = .ok
  forward : result.cursorType = .forwardOnly

theorem buffered_of_forward {result : Result} {setting : Setting}
    (hforward : result.cursorType = .forwardOnly) :
    result.isServerScrollable setting = false := by
  unfold Result.isServerScrollable
  split
  · rfl
  · rw [hforward]
    rfl

theorem Unread.congr {result other : Result} (hunread : Unread result)
    (hview : other.view = result.view)
    (hstatus : other.fetchStatus = result.fetchStatus)
    (hcursor : other.cursorType = result.cursorType) : Unread other where
  next := by
    cases hunread.next with
    | first hcursor hnumber hbefore hafter =>
        exact .first (by rw [hview]; exact hcursor)
          (by rw [hview]; exact hnumber) (by rw [hview]; exact hbefore)
          (by rw [hview]; exact hafter)
  sound := hstatus.trans hunread.sound
  forward := hcursor.trans hunread.forward

/-- What a delivery has come to from a row on. -/
structure Delivers (delivery : Delivery) (index rounds : Nat)
    (after : Status × Delivery) : Prop where
  called : ∃ more, after.2.delivered = delivery.delivered ++ more ∧
    more <+: delivery.result.rows.val.drop index ∧
    (after.1 = .ok → delivery.result.rows.val.length < index + rounds →
      more = delivery.result.rows.val.drop index)
  forward : after.2.result.cursorType = .forwardOnly

theorem deliverLoop_delivers {setting : Setting}
    {aborts : List (List UInt8) → Result → Bool} (rounds : Nat)
    {delivery : Delivery} {index : Nat}
    (hsound : delivery.result.fetchStatus = .ok)
    (hforward : delivery.result.cursorType = .forwardOnly)
    (hnext : delivery.result.NextRow index) :
    Delivers delivery index rounds
      (deliverLoop setting aborts rounds delivery) := by
  induction rounds generalizing delivery index with
  | zero =>
      refine ⟨⟨[], (List.append_nil _).symm, List.nil_prefix, ?_⟩, hforward⟩
      intro _ hlength
      exact (List.drop_eq_nil_of_le (by omega)).symm
  | succ rounds ih =>
      have hread := Result.fetch_read hsound
        (@buffered_of_forward _ setting hforward) hnext
      have hkept : (delivery.result.fetch setting).2.cursorType =
          .forwardOnly :=
        (congrArg Result.Terms.cursorType
          (Result.terms_fetch setting delivery.result)).trans hforward
      unfold deliverLoop
      generalize delivery.result.fetch setting = fetched at hread hkept ⊢
      obtain ⟨status, next⟩ := fetched
      dsimp only at hread hkept
      cases hread with
      | row hindex htuple hbehind hrows hgood =>
          have hdrop : delivery.result.rows.val.drop index =
              next.view.tuple.getD [] ::
                next.rows.val.drop (index + 1) := by
            rw [htuple, hrows]
            exact List.drop_eq_getElem_cons hindex
          dsimp only
          by_cases habort : aborts delivery.delivered next = true
          · rw [if_pos habort]
            refine ⟨⟨[next.view.tuple.getD []], rfl, ?_, nofun⟩, hkept⟩
            rw [hdrop]
            exact ⟨_, rfl⟩
          · rw [if_neg habort]
            have hrest := @ih ⟨delivery.delivered ++
              [next.view.tuple.getD []], next⟩ (index + 1) hgood hkept hbehind
            obtain ⟨more, hmore, hlead, hwhole⟩ := hrest.called
            refine ⟨⟨next.view.tuple.getD [] :: more, ?_, ?_, ?_⟩,
              hrest.forward⟩
            · rw [hmore]
              exact List.append_assoc _ _ _
            · rw [hdrop]
              exact List.cons_prefix_cons.mpr ⟨rfl, hlead⟩
            · intro hok hlength
              have hlast : next.rows.val.length < index + 1 + rounds := by
                rw [hrows]
                omega
              rw [hdrop, hwhole hok hlast]
      | past hindex =>
          refine ⟨⟨[], (List.append_nil _).symm, List.nil_prefix, ?_⟩, hkept⟩
          intro _ _
          exact (List.drop_eq_nil_of_le hindex).symm
      | failed hok heof =>
          have hstopped (status : Status) (hok : status ≠ .ok)
              (heof : status ≠ .eof) :
              Delivers delivery index (rounds + 1)
                (status, { delivery with result := next }) :=
            ⟨⟨[], (List.append_nil _).symm, List.nil_prefix,
              fun h => absurd h hok⟩, hkept⟩
          cases status
          case ok => exact absurd rfl hok
          case eof => exact absurd rfl heof
          all_goals exact hstopped _ nofun nofun

/-- What the delivery of a group leaves of a client. -/
structure Delivered (client after : Client) (more : List (List UInt8)) :
    Prop where
  rows : more <+: client.result.rows.val
  delivered : after.delivered = client.delivered ++ more
  asked : after.asked = client.asked
  incoming : after.incoming = client.incoming
  looks : after.scene.looks = client.scene.looks
  forward : after.result.cursorType = .forwardOnly

theorem deliverRows_delivers {streaming : Streaming} {client : Client}
    (hunread : Unread client.result) :
    match deliverRows (some streaming) client with
    | .ok _ after => Delivered client after client.result.rows.val
    | .error _ after => ∃ more, Delivered client after more := by
  have hdelivers := @deliverLoop_delivers (streaming.setting client.txn)
    streaming.aborts deliverRounds ⟨client.delivered, client.result⟩ 0
    hunread.sound hunread.forward hunread.next
  obtain ⟨⟨more, hmore, hlead, hwhole⟩, hforward⟩ := hdelivers
  have hbound := client.result.rows.property
  unfold int32Max at hbound
  have hrounds : client.result.rows.val.length < 0 + deliverRounds := by
    unfold deliverRounds int32Max
    omega
  unfold deliverRows
  dsimp only
  split
  · next hrun =>
    split at hrun
    · next hok =>
      cases hrun
      have hall : more = client.result.rows.val := hwhole hok hrounds
      rw [hall] at hmore
      exact ⟨List.prefix_refl _, hmore, rfl, rfl, rfl, hforward⟩
    · cases hrun
  · next hrun =>
    split at hrun
    · cases hrun
    · cases hrun
      exact ⟨more, hlead, hmore, rfl, rfl, rfl, hforward⟩

/-! What requests and receptions leave alone. -/

variable {rows : List (List UInt8)}
  {asked : List (Request × List Message)} {delivered got : List (List UInt8)}
  {clean : Prop} {fixed : Client → Prop} {caps : Capabilities}
  {choice : CursorChoice}

/-- Nothing asked is forgotten, no row is delivered, and what is sent arrives at
once, if `clean`. -/
structure Calm (asked : List (Request × List Message))
    (delivered : List (List UInt8)) (clean : Prop) (client : Client) :
    Prop where
  asked : asked <+: client.asked
  delivered : client.delivered = delivered
  prompt : clean → Prompt client.scene

theorem Calm.congr {client after : Client}
    (hcalm : Calm asked delivered clean client)
    (hasked : after.asked = client.asked)
    (hdelivered : after.delivered = client.delivered)
    (hlooks : after.scene.looks = client.scene.looks) :
    Calm asked delivered clean after where
  asked := by
    rw [hasked]
    exact hcalm.asked
  delivered := hdelivered.trans hcalm.delivered
  prompt hclean index := by
    rw [hlooks]
    exact hcalm.prompt hclean index

theorem keeps_check {status : Client → Status} : Upholds fixed (check status) := by
  intro client hfixed
  unfold check
  by_cases hok : status client = .ok
  · rw [if_pos hok]
    exact hfixed
  · rw [if_neg hok]
    exact hfixed

theorem keeps_update {change : Client → Client}
    (hchange : ∀ client, fixed client → fixed (change client)) :
    Upholds fixed (update change) := hchange

theorem keeps_attempt {program : Exchange Unit}
    (hprogram : Upholds fixed program) : Upholds fixed (attempt program) := by
  intro client hfixed
  have hrun := hprogram client hfixed
  change fixed (stateOf (program client))
  cases hresult : program client with
  | ok value after =>
      rw [hresult] at hrun
      exact hrun
  | error status after =>
      rw [hresult] at hrun
      exact hrun

theorem request_calm (wanted : Request) :
    Upholds (Calm asked delivered clean) (request wanted) := by
  intro client hcalm
  unfold request
  split
  · next hrun =>
    split at hrun
    · cases hrun
      exact ⟨hcalm.asked.trans (List.prefix_append _ _), hcalm.delivered,
        hcalm.prompt⟩
    · cases hrun
  · next hrun =>
    split at hrun
    · cases hrun
    · cases hrun
      exact hcalm.congr rfl rfl rfl

theorem receive_calm (context : Context) :
    Upholds (Calm asked delivered clean) (receive caps context) := by
  intro client hcalm
  have hafter : Calm asked delivered clean
      ((client.took (takenBy caps context client.rowCount client.incoming
        client.scene)).after
          (receiveDispatch caps context client.incoming client.scene)) :=
    ⟨hcalm.asked, hcalm.delivered, fun hclean =>
      lasting_prompt.receiveLoop (hcalm.prompt hclean)⟩
  rw [receive_apply]
  by_cases hok : (receiveDispatch caps context client.incoming
      client.scene).status = .ok
  · rw [if_pos hok]
    exact hafter
  · rw [if_neg hok]
    exact hafter

theorem aside_calm {program : Exchange α}
    (hprogram : Upholds (Calm asked delivered clean) program) :
    Upholds (Calm asked delivered clean) (aside program) := by
  intro client hcalm
  have hrun := hprogram (client.withResult blankResult)
    (hcalm.congr rfl rfl rfl)
  unfold aside
  cases hresult : program (client.withResult blankResult) with
  | ok value after =>
      rw [hresult] at hrun
      exact hrun.congr rfl rfl rfl
  | error status after =>
      rw [hresult] at hrun
      exact hrun.congr rfl rfl rfl

theorem drainExtra_prompt (extra : Nat) {messages : List Message}
    {scene : Scene} (hprompt : Prompt scene) :
    Prompt (drainExtra caps extra messages scene).scene := by
  induction extra generalizing messages scene with
  | zero => exact hprompt
  | succ extra ih =>
      have hlooked : Prompt (scene.looked.withResult blankResult) :=
        lasting_prompt.looked hprompt
      unfold drainExtra
      split
      · exact lasting_prompt.looked hprompt
      · have hreceived := @Lasting.receiveLoop _ caps .otherRecv
          (scene.looked.withResult blankResult).result.rowCount messages _
          lasting_prompt hlooked
        dsimp only
        split
        · exact hreceived
        · exact ih hreceived

theorem drainTail_calm :
    Upholds (Calm asked delivered clean) (drainTail caps) := by
  refine aside_calm fun client hcalm => ?_
  have hafter : Calm asked delivered clean (client.after
      (drainExtra caps extraGroups client.incoming client.scene)) :=
    ⟨hcalm.asked, hcalm.delivered, fun hclean =>
      drainExtra_prompt extraGroups (hcalm.prompt hclean)⟩
  unfold ofReception
  by_cases hok : (drainExtra caps extraGroups client.incoming
      client.scene).status = .ok
  · rw [if_pos hok]
    exact hafter
  · rw [if_neg hok]
    exact hafter

theorem closeRelease_calm (stmtId : Int) :
    Upholds (Calm asked delivered clean) (closeRelease caps stmtId) := by
  have hcontrol (wanted : Request) :
      Upholds (Calm asked delivered clean) (stmtControl caps wanted) :=
    (request_calm wanted).bind fun _ =>
      (aside_calm (receive_calm .otherRecv)).bind fun _ =>
        keeps_attempt drainTail_calm
  exact (keeps_attempt (hcontrol _)).bind fun _ => keeps_attempt (hcontrol _)

theorem destroyResult_calm :
    Upholds (Calm asked delivered clean) (destroyResult caps) :=
  Holds.branch (fun client hcalm =>
    closeRelease_calm client.result.stmtId client hcalm.1)
    fun _ hcalm => hcalm.1

theorem autobegin_calm :
    Upholds (Calm asked delivered clean) (autobegin caps) := by
  have hbegin : Upholds (Calm asked delivered clean) (begin caps) :=
    keeps_check.bind fun _ => keeps_check.bind fun _ =>
      (request_calm .begin).bind fun _ =>
        (aside_calm ((receive_calm .otherRecv).bind fun _ =>
          keeps_check)).bind fun _ =>
            keeps_update fun _ hcalm => hcalm.congr rfl rfl rfl
  exact Holds.branch (fun _ hcalm => hcalm.1) (Holds.branch
    (fun client hcalm => hbegin client hcalm.1.1) fun _ hcalm => hcalm.1.1)

theorem nextFetch_calm (stmtId : Int) :
    Upholds (Calm asked delivered clean) (nextFetch stmtId) :=
  (keeps_update fun _ hcalm => hcalm.congr rfl rfl rfl).bind fun _ =>
    request_calm _

/-- A result that can be read from its first row on. -/
abbrev Untouched (client : Client) : Prop := Unread client.result

theorem lasting_unread : Lasting fun scene => Unread scene.result where
  looked hscene := hscene
  allocated hscene := hscene
  noted _ hscene := hscene
  ended hscene := hscene.congr rfl rfl rfl
  described _ _ hscene := ⟨.first rfl rfl rfl rfl, hscene.sound, hscene.forward⟩
  grown hscene htuple := by
    unfold receiveTuple at htuple
    split at htuple
    · cases htuple
      exact hscene.congr rfl rfl rfl
    · cases htuple
  counted _ _ hscene := hscene.congr rfl rfl rfl
  failed _ hscene := hscene.congr rfl rfl rfl
  inserted serial hscene := by
    unfold receiveInsertdone
    split
    · exact hscene
    · exact hscene.congr rfl rfl rfl

theorem request_untouched (wanted : Request) :
    Upholds Untouched (request wanted) := by
  intro client hunread
  unfold request
  split
  · next hrun =>
    split at hrun
    · cases hrun
      exact hunread
    · cases hrun
  · next hrun =>
    split at hrun
    · cases hrun
    · cases hrun
      exact hunread

theorem receive_untouched (context : Context) :
    Upholds Untouched (receive caps context) := by
  intro client hunread
  have hafter : Unread (receiveDispatch caps context client.incoming
      client.scene).scene.result := lasting_unread.receiveLoop hunread
  rw [receive_apply]
  by_cases hok : (receiveDispatch caps context client.incoming
      client.scene).status = .ok
  · rw [if_pos hok]
    exact hafter
  · rw [if_neg hok]
    exact hafter

theorem aside_untouched {program : Exchange α} :
    Upholds Untouched (aside program) := by
  intro client hunread
  unfold aside
  cases program (client.withResult blankResult) with
  | ok value after => exact hunread
  | error status after => exact hunread

theorem autobegin_untouched : Upholds Untouched (autobegin caps) := by
  have hbegin : Upholds Untouched (begin caps) :=
    keeps_check.bind fun _ => keeps_check.bind fun _ =>
      (request_untouched .begin).bind fun _ =>
        aside_untouched.bind fun _ => keeps_update fun _ hunread => hunread
  exact Holds.branch (fun _ hunread => hunread.1) (Holds.branch
    (fun client hunread => hbegin client hunread.1.1)
      fun _ hunread => hunread.1.1)

theorem nextFetch_untouched (stmtId : Int) :
    Upholds Untouched (nextFetch stmtId) :=
  (keeps_update fun _ hunread => hunread.congr rfl rfl rfl).bind fun _ =>
    request_untouched _

/-! The stages of a query whose rows are streamed. -/

/-- What is known of a server with these rows once `got` of them were delivered
behind `delivered`. -/
structure Stage (rows : List (List UInt8))
    (asked : List (Request × List Message)) (delivered : List (List UInt8))
    (clean : Prop) (got : List (List UInt8))
    (condition : List (List UInt8) → Client → Prop) (client : Client) :
    Prop where
  knows : Knows rows asked condition client
  calm : Calm asked (delivered ++ got) clean client
  unread : Unread client.result

/-- The rows delivered are the first of the server's, all of them if `complete`. -/
def InOrder (rows : List (List UInt8)) (asked : List (Request × List Message))
    (delivered : List (List UInt8)) (complete : Prop) (client : Client) :
    Prop :=
  ∃ made got, Calm (asked ++ made) (delivered ++ got) False client ∧
    ∀ left, Serves rows made left → got <+: rows ∧ (complete → got = rows)

/-- A group of rows may be asked for. -/
def Ready (rows : List (List UInt8)) (clean : Prop)
    (got left : List (List UInt8)) (client : Client) : Prop :=
  client.result.rows.val = [] ∧ got ++ left = rows ∧ Stale client.incoming ∧
    (clean → client.incoming = [])

/-- A group of rows, or the end of them, is on its way. -/
def Coming (rows : List (List UInt8)) (clean : Prop)
    (got left : List (List UInt8)) (client : Client) : Prop :=
  client.result.rows.val = [] ∧ client.result.eof = false ∧
    ∃ stale reply, client.incoming = stale ++ reply ∧ Stale stale ∧
      (clean → stale = []) ∧
      ((∃ batch, batch ≠ [] ∧ Brings batch reply ∧
          got ++ (batch ++ left) = rows) ∨
        Finishes reply ∧ got = rows)

/-- A group of rows has been received, or an EOT left over from an earlier reply
has been taken for the end. -/
def Came (rows : List (List UInt8)) (clean : Prop)
    (got left : List (List UInt8)) (client : Client) : Prop :=
  (client.result.rows.val ≠ [] ∧
      got ++ (client.result.rows.val ++ left) = rows ∧ Stale client.incoming ∧
      (clean → client.incoming = [])) ∨
    client.result.rows.val = [] ∧ got <+: rows ∧ (clean → got = rows)

theorem InOrder.weaken {complete : Prop} {client : Client}
    (horder : InOrder rows asked delivered complete client) :
    InOrder rows asked delivered False client := by
  obtain ⟨made, got, hcalm, hrows⟩ := horder
  exact ⟨made, got, hcalm, fun left hserves =>
    ⟨(hrows left hserves).1, False.elim⟩⟩

theorem inOrder_of_knows {complete : Prop} {client : Client}
    (hknows : Knows rows asked
      (fun _ _ => got <+: rows ∧ (complete → got = rows)) client)
    (hcalm : Calm asked (delivered ++ got) clean client) :
    InOrder rows asked delivered complete client := by
  obtain ⟨made, hasked, hrows⟩ := hknows
  refine ⟨made, got, ⟨?_, hcalm.delivered, False.elim⟩, hrows⟩
  rw [hasked]

theorem inOrder_upheld {program : Exchange α} {complete : Prop}
    (hcalm : ∀ asked delivered,
      Upholds (Calm asked delivered False) program) :
    Upholds (InOrder rows asked delivered complete) program := by
  rintro client ⟨made, got, hclient, hrows⟩
  have hrun := hcalm _ _ client hclient
  cases hresult : program client with
  | ok value after =>
      rw [hresult] at hrun
      exact ⟨made, got, hrun, hrows⟩
  | error status after =>
      rw [hresult] at hrun
      exact ⟨made, got, hrun, hrows⟩

variable {pre post : List (List UInt8) → Client → Prop}

/-- As long as no row is delivered, a run may stop anywhere. -/
theorem holds_stage {program : Exchange α}
    (hknows : Holds (Knows rows asked pre) program
      (fun _ => Knows rows asked post) (Stops rows asked))
    (hcalm : Upholds (Calm asked (delivered ++ []) clean) program)
    (hunread : Upholds Untouched program) :
    Holds (Stage rows asked delivered clean [] pre) program
      (fun _ => Stage rows asked delivered clean [] post)
      fun _ => InOrder rows asked delivered False := by
  refine ((hknows.and hcalm).and hunread).mono
    (fun _ hstage => ⟨⟨hstage.knows, hstage.calm⟩, hstage.unread⟩)
    (fun _ _ hafter => ⟨hafter.1.1, hafter.1.2, hafter.2⟩)
    fun _ _ hafter => ?_
  exact inOrder_of_knows (hafter.1.1.mono fun _ _ =>
    ⟨List.nil_prefix, False.elim⟩) hafter.1.2

theorem nextFetch_stage (stmtId : Int) :
    Holds (Stage rows asked delivered clean got (Ready rows clean got))
      (nextFetch stmtId)
      (fun _ => Stage rows asked delivered clean got (Coming rows clean got))
      fun _ => InOrder rows asked delivered False := by
  have hcleared : Holds (Knows rows asked (Ready rows clean got))
      (updateResult clearEof)
      (fun _ => Knows rows asked fun left client =>
        Ready rows clean got left client ∧ client.result.eof = false)
      fun _ => Knows rows asked fun _ _ => got <+: rows ∧ (False → got = rows) :=
    holds_of_update (fun _ => rfl) fun _ _ hready => ⟨hready, rfl⟩
  have hknows := hcleared.bind fun _ => @holds_of_request rows asked _
    (Coming rows clean got)
    (fun _ _ => got <+: rows ∧ (False → got = rows)) (.fetch stmtId)
    (fun left next client hclient hanswer => by
      obtain ⟨⟨hempty, hrows, hstale, hclean⟩, hopen⟩ := hclient
      refine ⟨hempty, hopen, client.incoming, client.answers.headD [], rfl,
        hstale, hclean, ?_⟩
      cases hanswer with
      | batch hbatch hreply => exact .inl ⟨_, hbatch, hreply, hrows⟩
      | finish hreply =>
          exact .inr ⟨hreply, (List.append_nil _).symm.trans hrows⟩
      | control hwanted hreply => cases hwanted)
    fun left client hclient =>
      ⟨⟨left, hclient.1.2.1⟩, False.elim⟩
  refine ((hknows.and (nextFetch_calm stmtId)).and
    (nextFetch_untouched stmtId)).mono
      (fun _ hstage => ⟨⟨hstage.knows, hstage.calm⟩, hstage.unread⟩)
      (fun _ _ hafter => ⟨hafter.1.1, hafter.1.2, hafter.2⟩)
      fun _ _ hafter => inOrder_of_knows hafter.1.1 hafter.1.2

/-- What a reception makes of a group on its way. -/
theorem coming_received {left : List (List UInt8)} {client : Client}
    (hcoming : Coming rows clean got left client)
    (hprompt : clean → Prompt client.scene)
    (hok : (receiveDispatch caps .fetchRecv client.incoming
      client.scene).status = .ok) :
    Came rows clean got left (client.after
      (receiveDispatch caps .fetchRecv client.incoming client.scene)) := by
  obtain ⟨hempty, hopen, stale, reply, hincoming, hstale, hclean, hreply⟩ :=
    hcoming
  unfold Came Client.result Client.after
  dsimp only
  rw [hincoming] at hok ⊢
  rcases hreply with ⟨batch, hbatch, hbrings, hrows⟩ | ⟨hfinishes, hrows⟩
  · have hgroup := receiveDispatch_batch hbrings hbatch hstale hopen hok
    rcases hgroup with ⟨hgrown, hleft, hread⟩ | ⟨hsome, hsame⟩
    · have hbatched : (receiveDispatch caps .fetchRecv (stale ++ reply)
          client.scene).scene.result.rows.val = batch := by
        rw [hgrown]
        change client.result.rows.val ++ batch = batch
        rw [hempty]
        rfl
      refine .inl ⟨?_, ?_, hleft, fun hc => hread (hclean hc) (hprompt hc)⟩
      · rw [hbatched]
        exact hbatch
      · rw [hbatched]
        exact hrows
    · refine .inr ⟨?_, ⟨_, hrows⟩, fun hc => absurd (hclean hc) hsome⟩
      rw [hsame]
      exact hempty
  · refine .inr ⟨?_, ?_, fun _ => hrows⟩
    · rw [receiveDispatch_finish hfinishes hstale hopen]
      exact hempty
    · rw [hrows]

theorem Coming.inOrder {left : List (List UInt8)} {client : Client}
    (hcoming : Coming rows clean got left client) : got <+: rows := by
  obtain ⟨-, -, stale, reply, -, -, -, hreply⟩ := hcoming
  rcases hreply with ⟨batch, -, -, hrows⟩ | ⟨-, hrows⟩
  · exact ⟨_, hrows⟩
  · rw [hrows]

theorem receive_stage :
    Holds (Stage rows asked delivered clean got (Coming rows clean got))
      (receive caps .fetchRecv)
      (fun _ => Stage rows asked delivered clean got (Came rows clean got))
      fun _ => InOrder rows asked delivered False := by
  rintro client ⟨⟨made, hasked, hknown⟩, hcalm, hunread⟩
  have hcalmed := @receive_calm asked (delivered ++ got) clean caps .fetchRecv
    client hcalm
  have huntouched := @receive_untouched caps .fetchRecv client hunread
  rw [receive_apply] at hcalmed huntouched ⊢
  by_cases hok : (receiveDispatch caps .fetchRecv client.incoming
      client.scene).status = .ok
  · rw [if_pos hok] at hcalmed huntouched ⊢
    exact ⟨⟨made, hasked, fun left hserves =>
      coming_received (hknown left hserves) hcalm.prompt hok⟩, hcalmed,
      huntouched⟩
  · rw [if_neg hok] at hcalmed huntouched ⊢
    exact inOrder_of_knows ⟨made, hasked, fun left hserves =>
      ⟨(hknown left hserves).inOrder, False.elim⟩⟩ hcalmed

/-- A group that came is delivered, or a beginning of it. -/
theorem came_delivered {left more : List (List UInt8)} {client : Client}
    (hcame : Came rows clean got left client)
    (hmore : more <+: client.result.rows.val) : got ++ more <+: rows := by
  rcases hcame with ⟨-, hrows, -⟩ | ⟨hempty, hlead, -⟩
  · obtain ⟨rest, hrest⟩ := hmore
    refine ⟨rest ++ left, ?_⟩
    rw [← hrows, ← hrest]
    simp only [List.append_assoc]
  · rw [hempty] at hmore
    rw [List.prefix_nil.mp hmore, List.append_nil]
    exact hlead

/-- What a round of the fetch loop leaves. -/
def AfterRound (rows : List (List UInt8))
    (asked : List (Request × List Message)) (delivered : List (List UInt8))
    (clean : Prop) (count : Int) (client : Client) : Prop :=
  if count ≤ 0 then InOrder rows asked delivered clean client
  else ∃ got,
    Stage rows asked delivered clean got (Ready rows clean got) client

variable {streaming : Streaming}

theorem streamRound_stage :
    Holds (Stage rows asked delivered clean got (Coming rows clean got))
      (streamRound caps (some streaming))
      (AfterRound rows asked delivered clean)
      fun _ => InOrder rows asked delivered False := by
  refine Holds.bind receive_stage fun _ client hstage => ?_
  obtain ⟨⟨made, hasked, hknown⟩, hcalm, hunread⟩ := hstage
  have hdelivers := @deliverRows_delivers streaming client hunread
  have hcounted : gotRows client = .ok client.rowCount client := rfl
  rw [bind_apply, hcounted]
  dsimp only
  rw [bind_apply]
  cases hrun : deliverRows (some streaming) client with
  | error status after =>
      rw [hrun] at hdelivers
      obtain ⟨more, hmore⟩ := hdelivers
      have hcalmed : Calm asked (delivered ++ (got ++ more)) clean after := by
        refine ⟨?_, ?_, fun hclean index => ?_⟩
        · rw [hmore.asked]
          exact hcalm.asked
        · rw [hmore.delivered, hcalm.delivered, List.append_assoc]
        · rw [hmore.looks]
          exact hcalm.prompt hclean index
      exact inOrder_of_knows ⟨made, hmore.asked.trans hasked,
        fun left hserves => ⟨came_delivered (hknown left hserves) hmore.rows,
          False.elim⟩⟩ hcalmed
  | ok value after =>
      rw [hrun] at hdelivers
      have hcalmed : Calm asked
          (delivered ++ (got ++ client.result.rows.val)) clean
          (after.withResult after.result.clearRows) := by
        refine ⟨?_, ?_, fun hclean index => ?_⟩
        · change asked <+: after.asked
          rw [hdelivers.asked]
          exact hcalm.asked
        · change after.delivered = _
          rw [hdelivers.delivered, hcalm.delivered, List.append_assoc]
        · change after.scene.looks index = true
          rw [hdelivers.looks]
          exact hcalm.prompt hclean index
      have hmade : (after.withResult after.result.clearRows).asked =
          asked ++ made := hdelivers.asked.trans hasked
      change AfterRound rows asked delivered clean client.rowCount
        (after.withResult after.result.clearRows)
      unfold AfterRound
      by_cases hcount : 0 < client.rowCount
      · rw [if_neg (Int.not_le.mpr hcount)]
        refine ⟨got ++ client.result.rows.val, ⟨made, hmade, ?_⟩, hcalmed, ?_⟩
        · intro left hserves
          rcases hknown left hserves with ⟨-, hrows, hstale, hclean⟩ |
            ⟨hempty, -⟩
          · refine ⟨rfl, (List.append_assoc _ _ _).trans hrows, ?_, ?_⟩
            · change Stale after.incoming
              rw [hdelivers.incoming]
              exact hstale
            · change clean → after.incoming = []
              rw [hdelivers.incoming]
              exact hclean
          · unfold Client.rowCount Result.rowCount at hcount
            unfold Client.result at hempty
            rw [hempty] at hcount
            exact absurd hcount (by decide)
        · exact ⟨.first rfl rfl rfl rfl, rfl, hdelivers.forward⟩
      · rw [if_pos (Int.not_lt.mp hcount)]
        have hempty : client.result.rows.val = [] := by
          unfold Client.rowCount Result.rowCount at hcount
          exact List.length_eq_zero_iff.mp (by
            unfold Client.result
            omega)
        rw [hempty, List.append_nil] at hcalmed
        refine inOrder_of_knows ⟨made, hmade, fun left hserves => ?_⟩ hcalmed
        rcases hknown left hserves with ⟨hsome, -⟩ | ⟨-, hlead, hall⟩
        · exact absurd hempty hsome
        · exact ⟨hlead, hall⟩

theorem streamFetch_forward (hforward : choice.cursorType = .forwardOnly)
    (stmtId index : Int) : streamFetch choice stmtId index = nextFetch stmtId :=
  if_neg (by rw [hforward]; decide)

theorem streamLoop_inOrder (hforward : choice.cursorType = .forwardOnly)
    (stmtId : Int) :
    Holds (Stage rows asked delivered clean got (Coming rows clean got))
      (streamLoop caps choice (some streaming) stmtId)
      (fun _ => InOrder rows asked delivered clean)
      fun _ => InOrder rows asked delivered False := by
  intro client hstage
  induction hroom : client.streamRoom using Nat.strong_induction_on
    generalizing client got with
  | _ room ih =>
      have hround := @streamRound_stage rows asked delivered got clean caps
        streaming client hstage
      rw [streamLoop_apply]
      cases hrun : streamRound caps (some streaming) client with
      | error status after =>
          rw [hrun] at hround
          exact hround
      | ok count after =>
          rw [hrun] at hround
          dsimp only at hround ⊢
          unfold AfterRound at hround
          by_cases hcount : count ≤ 0
          · rw [if_pos hcount] at hround ⊢
            exact hround
          · rw [if_neg hcount] at hround ⊢
            obtain ⟨got, hready⟩ := hround
            have hfetch := @nextFetch_stage rows asked delivered got clean
              stmtId after hready
            rw [← streamFetch_forward hforward stmtId (count + 1)] at hfetch
            rw [bind_apply]
            cases hnext : streamFetch choice stmtId (count + 1) after with
            | error status behind =>
                rw [hnext] at hfetch
                exact hfetch
            | ok value behind =>
                rw [hnext] at hfetch
                exact ih behind.streamRoom
                  (hroom ▸ streamRound_room hrun hnext) behind hfetch rfl

/-! `sqli_query_stream` from its preparation on. -/

theorem endStatement_inOrder {complete : Prop} (stmtId : Int) :
    Upholds (InOrder rows asked delivered complete)
      (do
        closeRelease caps stmtId
        updateResult forgetStatement : Exchange Unit) :=
  (inOrder_upheld fun _ _ => closeRelease_calm stmtId).bind fun _ =>
    inOrder_upheld fun _ _ => keeps_update fun _ hcalm =>
      hcalm.congr rfl rfl rfl

theorem request_opening (stmtId : Int) :
    Holds (Knows rows asked (Settled OpenSelect clean))
      (request (.open stmtId))
      (fun _ => Knows rows asked fun left client => left = rows ∧
        Acknowledged OpenSelect clean left client) (Stops rows asked) := by
  refine holds_of_request (fun left next client hsettled hanswer => ?_)
    fun _ _ _ => trivial
  obtain ⟨hkeep, hstale, hclean⟩ := hsettled
  cases hanswer with
  | opened hreply =>
      obtain ⟨quiet, hreply, hquiet⟩ := hreply
      refine ⟨rfl, hkeep, client.incoming, quiet, ?_, hstale, hquiet, hclean⟩
      rw [← hreply]
      rfl
  | control hwanted hreply => cases hwanted

theorem receive_opening :
    Holds (Knows rows asked fun left client => left = rows ∧
        Acknowledged OpenSelect clean left client)
      (receive caps .otherRecv)
      (fun _ => Knows rows asked (Ready rows clean [])) (Stops rows asked) := by
  refine holds_of_quiet (fun client => ?_) fun left client hpending => ?_
  · rw [receive_apply]
    split <;> rfl
  · obtain ⟨rfl, hopening⟩ := hpending
    obtain ⟨hstatus, hresult, hstale, hclean⟩ := @acknowledged_received caps
      OpenSelect clean left client hopening client.result hopening.1.2
    have hscene : client.scene.withResult client.result = client.scene := rfl
    rw [hscene] at hstatus hresult hstale hclean
    rw [receive_apply, if_pos hstatus]
    refine ⟨?_, rfl, hstale, hclean⟩
    change (receiveDispatch _ _ _ _).scene.result.rows.val = []
    rw [hresult]
    exact hopening.1.1.1

theorem streamSelect_inOrder (hforward : choice.cursorType = .forwardOnly)
    (stmtId : Int) :
    Holds (Stage rows asked delivered clean [] (Settled OpenSelect clean))
      (streamSelect caps choice (some streaming) stmtId)
      (fun _ => InOrder rows asked delivered clean)
      fun _ => InOrder rows asked delivered False := by
  have hend := (@endStatement_inOrder rows asked delivered caps clean
    stmtId).mono (fun _ horder => horder) (fun _ _ horder => horder)
      fun _ _ horder => horder.weaken
  unfold streamSelect
  rw [streamFetch_forward hforward]
  exact (holds_stage (request_opening stmtId) (request_calm _)
    (request_untouched _)).bind fun _ =>
      (holds_stage receive_opening (receive_calm .otherRecv)
        (receive_untouched .otherRecv)).bind fun _ =>
          (nextFetch_stage stmtId).bind fun _ =>
            (streamLoop_inOrder hforward stmtId).bind fun _ => hend

/-- Nothing is said of a statement that such a server did not prepare. -/
theorem streamExecute_inOrder (stmtId : Int) :
    Holds (Stage rows asked delivered clean [] Impossible)
      (streamExecute caps (some streaming) stmtId)
      (fun _ => InOrder rows asked delivered clean)
      fun _ => InOrder rows asked delivered False := by
  have hreceived : Holds (Knows rows asked Impossible)
      (receive caps .otherRecv) (fun _ => Knows rows asked Impossible)
      (Stops rows asked) := by
    refine holds_of_quiet (fun client => ?_) fun _ _ hfalse => hfalse.elim
    rw [receive_apply]
    split <;> rfl
  refine (holds_stage (request_impossible _) (request_calm _)
    (request_untouched _)).bind fun _ =>
      (holds_stage hreceived (receive_calm _) (receive_untouched _)).bind
        fun _ client hstage => ?_
  obtain ⟨⟨made, hasked, hnone⟩, hcalm, hunread⟩ := hstage
  have hdelivers := @deliverRows_delivers streaming client hunread
  have hafter (after : Client) (more : List (List UInt8)) (complete : Prop)
      (hmore : Delivered client after more) :
      InOrder rows asked delivered complete after := by
    refine ⟨made, more, ⟨?_, ?_, False.elim⟩, fun left hserves =>
      (hnone left hserves).elim⟩
    · rw [hmore.asked, hasked]
    · rw [hmore.delivered, hcalm.delivered, List.append_nil]
  cases hrun : deliverRows (some streaming) client with
  | ok value after =>
      rw [hrun] at hdelivers
      exact hafter after _ clean hdelivers
  | error status after =>
      rw [hrun] at hdelivers
      obtain ⟨more, hmore⟩ := hdelivers
      exact hafter after more False hmore

theorem runStream_inOrder (hforward : choice.cursorType = .forwardOnly) :
    Holds (Stage rows asked delivered clean [] (Settled OpenSelect clean))
      (runStream caps choice (some streaming))
      (fun _ => InOrder rows asked delivered clean)
      fun _ => InOrder rows asked delivered False := by
  refine Holds.branch (fun client hstage => ?_) fun client hstage => ?_
  · exact streamSelect_inOrder hforward client.result.stmtId client hstage.1
  · have hnone : Knows rows asked Impossible client :=
      hstage.1.knows.mono fun left hsettled =>
        hstage.2 (beq_iff_eq.mpr hsettled.1.1.2)
    exact streamExecute_inOrder client.result.stmtId client
      ⟨hnone, hstage.1.calm, hstage.1.unread⟩

/-- A description of a SELECT is on its way. -/
def Describing (clean : Prop) (_ : List (List UInt8)) (client : Client) :
    Prop :=
  client.result.rows.val = [] ∧ client.result.eof = false ∧
    canEndGroup .prepareRecv client.result.rowCount client.result = false ∧
    ∃ stale reply, client.incoming = stale ++ reply ∧ Stale stale ∧
      (clean → stale = []) ∧ Describes reply

/-- No more than stale messages is unread. -/
def Idle (clean : Prop) (_ : List (List UInt8)) (client : Client) : Prop :=
  Stale client.incoming ∧ (clean → client.incoming = [])

/-- The result of the query has just been made. -/
def Made (clean : Prop) (left : List (List UInt8)) (client : Client) : Prop :=
  client.result.rows.val = [] ∧ client.result.eof = false ∧
    canEndGroup .prepareRecv client.result.rowCount client.result = false ∧
    Idle clean left client

theorem request_describing (sql : List UInt8) :
    Holds (Knows rows asked (Made clean)) (request (.prepare sql))
      (fun _ => Knows rows asked (Describing clean)) (Stops rows asked) := by
  refine holds_of_request (fun left next client hmade hanswer => ?_)
    fun _ _ _ => trivial
  obtain ⟨hrows, hopen, hblank, hstale, hclean⟩ := hmade
  refine ⟨hrows, hopen, hblank, client.incoming, client.answers.headD [], rfl,
    hstale, hclean, ?_⟩
  cases hanswer with
  | prepare hreply => exact hreply
  | control hwanted hreply => cases hwanted

theorem receive_describing :
    Holds (Stage rows asked delivered clean [] (Describing clean))
      (receive caps .prepareRecv)
      (fun _ => Stage rows asked delivered clean []
        (Settled EmptySelect clean))
      fun _ => InOrder rows asked delivered False := by
  rintro client ⟨⟨made, hasked, hknown⟩, hcalm, hunread⟩
  have hcalmed := @receive_calm asked (delivered ++ []) clean caps .prepareRecv
    client hcalm
  have huntouched := @receive_untouched caps .prepareRecv client hunread
  rw [receive_apply] at hcalmed huntouched ⊢
  by_cases hok : (receiveDispatch caps .prepareRecv client.incoming
      client.scene).status = .ok
  · rw [if_pos hok] at hcalmed huntouched ⊢
    refine ⟨⟨made, hasked, fun left hserves => ?_⟩, hcalmed, huntouched⟩
    obtain ⟨hrows, hopen, hblank, stale, reply, hincoming, hstale, hclean,
      hreply⟩ := hknown left hserves
    unfold Settled Client.result Client.after
    dsimp only
    rw [hincoming] at hok ⊢
    obtain ⟨hsame, hselect, hleft⟩ :=
      receiveDispatch_describes hreply hstale hopen hblank hok
    refine ⟨⟨?_, hselect⟩, hleft, fun hc => ?_⟩
    · rw [hsame]
      exact hrows
    · rw [hclean hc, List.nil_append] at hok ⊢
      exact receiveDispatch_described hreply hopen (hcalm.prompt hc) hok
  · rw [if_neg hok] at hcalmed huntouched ⊢
    exact inOrder_of_knows ⟨made, hasked, fun left hserves =>
      ⟨List.nil_prefix, False.elim⟩⟩ hcalmed

theorem answerStream_inOrder (hforward : choice.cursorType = .forwardOnly) :
    Holds (Stage rows asked delivered clean [] (Describing clean))
      (answerStream caps choice (some streaming))
      (fun _ => InOrder rows asked delivered clean)
      fun _ => InOrder rows asked delivered False := by
  have hchecked : Holds (Knows rows asked (Settled EmptySelect clean))
      checkPrepared
      (fun _ => Knows rows asked (Settled OpenSelect clean))
      (Stops rows asked) :=
    (holds_weakly holds_of_check).bind fun _ =>
      holds_of_update (fun _ => rfl) fun _ _ hsettled =>
        ⟨⟨hsettled.1, rfl⟩, hsettled.2⟩
  have hcalm : Upholds (Calm asked (delivered ++ []) clean) checkPrepared :=
    keeps_check.bind fun _ => keeps_update fun _ hcalm =>
      hcalm.congr rfl rfl rfl
  have hunread : Upholds Untouched checkPrepared :=
    keeps_check.bind fun _ => keeps_update fun _ hunread =>
      hunread.congr rfl rfl rfl
  have htrack : Upholds (InOrder rows asked delivered clean) track :=
    inOrder_upheld fun _ _ => keeps_update fun _ hcalm =>
      hcalm.congr rfl rfl rfl
  exact receive_describing.bind fun _ =>
    (holds_stage (holds_weakly autobegin_settled) autobegin_calm
      autobegin_untouched).bind fun _ =>
        (holds_stage hchecked hcalm hunread).bind fun _ =>
          (runStream_inOrder hforward).bind fun _ => htrack.mono
            (fun _ horder => horder) (fun _ _ horder => horder)
            fun _ _ horder => horder.weaken

theorem holds_onError {program cleanup : Exchange Unit}
    {before after failed : Client → Prop}
    (hprogram : Holds before program (fun _ => after) fun _ => failed)
    (hcleanup : Upholds failed cleanup) :
    Holds before (onError program cleanup) (fun _ => after)
      fun _ => failed := by
  intro client hbefore
  have hrun := hprogram client hbefore
  unfold onError
  cases hresult : program client with
  | ok value behind =>
      rw [hresult] at hrun
      exact hrun
  | error status behind =>
      rw [hresult] at hrun
      exact keeps_attempt hcleanup behind hrun

theorem newResult_made (hforward : choice.cursorType = .forwardOnly) :
    Holds (fun client => Knows rows asked (Idle clean) client ∧
        Calm asked (delivered ++ []) clean client) (newResult choice)
      (fun _ => Stage rows asked delivered clean [] (Made clean))
      fun _ => InOrder rows asked delivered False := by
  rintro client ⟨⟨made, hasked, hidle⟩, hcalm⟩
  unfold newResult
  rw [bind_apply]
  unfold allocate
  rw [if_neg nofun]
  by_cases halloc : client.scene.allocs 0 = true
  · rw [if_pos halloc]
    have hunread : Unread (queriedResult choice client.txn) :=
      ⟨.first rfl rfl rfl rfl, rfl, hforward⟩
    exact ⟨⟨made, hasked, fun left hserves =>
      ⟨rfl, rfl, rfl, hidle left hserves⟩⟩, hcalm.congr rfl rfl rfl, hunread⟩
  · rw [if_neg halloc]
    exact inOrder_of_knows ⟨made, hasked, fun _ _ =>
      ⟨List.nil_prefix, False.elim⟩⟩ (hcalm.congr rfl rfl rfl)

theorem queryStream_inOrder (hforward : choice.cursorType = .forwardOnly)
    (sql : List UInt8) :
    Holds (fun client => Knows rows asked (Idle clean) client ∧
        Calm asked (delivered ++ []) clean client)
      (queryStream caps choice (some streaming) sql)
      (fun _ => InOrder rows asked delivered clean)
      fun _ => InOrder rows asked delivered False := by
  have hready : Upholds (fun client => Knows rows asked (Idle clean) client ∧
      Calm asked (delivered ++ []) clean client) checkReady := keeps_check
  have hstart := hready.mono (fun _ hclient => hclient)
    (fun _ _ hclient => hclient) (fun _ _ hclient =>
      inOrder_of_knows (hclient.1.mono fun _ _ =>
        ⟨List.nil_prefix, False.elim⟩) hclient.2)
  have hdestroy (complete : Prop) :
      Upholds (InOrder rows asked delivered complete) (destroyResult caps) :=
    inOrder_upheld fun _ _ => destroyResult_calm
  exact hstart.bind fun _ => (newResult_made hforward).bind fun _ =>
    (holds_stage (request_describing sql) (request_calm _)
      (request_untouched _)).bind fun _ =>
        (holds_onError (answerStream_inOrder hforward)
          (hdestroy False)).bind fun _ =>
          (hdestroy clean).mono (fun _ horder => horder)
            (fun _ _ horder => horder) fun _ _ horder => horder.weaken

theorem Serves.before {made more : List (Request × List Message)}
    {left : List (List UInt8)} (hserves : Serves rows (made ++ more) left) :
    ∃ before, Serves rows made before := by
  induction more using List.reverseRecOn generalizing left with
  | nil =>
      rw [List.append_nil] at hserves
      exact ⟨left, hserves⟩
  | append_singleton more last ih =>
      rw [← List.append_assoc] at hserves
      obtain ⟨before, hbefore, -⟩ := hserves.last
      exact ih hbefore

/-- However the run ends, the callback was called with a beginning of the server's
rows, in their order; if it succeeds, with all of them, unless messages come late. -/
theorem queryStream_delivers {client : Client} {sql : List UInt8}
    {made : List (Request × List Message)} {left : List (List UInt8)}
    (hforward : choice.cursorType = .forwardOnly)
    (hstale : Stale client.incoming)
    (hasked : (stateOf (queryStream caps choice (some streaming) sql
      client)).asked = client.asked ++ made)
    (hserves : Serves rows made left) :
    (∃ got, got <+: rows ∧
      (stateOf (queryStream caps choice (some streaming) sql
        client)).delivered = client.delivered ++ got) ∧
      ∀ after, queryStream caps choice (some streaming) sql client =
        .ok () after → client.incoming = [] → Prompt client.scene →
          after.delivered = client.delivered ++ rows := by
  have hstart : Knows rows client.asked
        (Idle (client.incoming = [] ∧ Prompt client.scene)) client ∧
      Calm client.asked (client.delivered ++ [])
        (client.incoming = [] ∧ Prompt client.scene) client :=
    ⟨⟨[], (List.append_nil _).symm, fun _ _ => ⟨hstale, And.left⟩⟩,
      List.prefix_refl _, (List.append_nil _).symm, And.right⟩
  have hrun := @queryStream_inOrder rows client.asked client.delivered
    (client.incoming = [] ∧ Prompt client.scene) caps choice streaming
    hforward sql client hstart
  have hknown {complete : Prop} {after : Client}
      (horder : InOrder rows client.asked client.delivered complete after)
      (hsame : after.asked = client.asked ++ made) :
      ∃ got, got <+: rows ∧ after.delivered = client.delivered ++ got ∧
        (complete → got = rows) := by
    obtain ⟨found, got, hcalm, hrows⟩ := horder
    obtain ⟨more, hmore⟩ := hcalm.asked
    have hmade : found ++ more = made := by
      rw [hsame, List.append_assoc] at hmore
      exact List.append_cancel_left hmore
    obtain ⟨before, hbefore⟩ := Serves.before (hmade ▸ hserves)
    obtain ⟨hlead, hall⟩ := hrows before hbefore
    exact ⟨got, hlead, hcalm.delivered, hall⟩
  cases hresult : queryStream caps choice (some streaming) sql client with
  | ok value behind =>
      rw [hresult] at hrun hasked
      obtain ⟨got, hlead, hdelivered, hall⟩ := hknown hrun hasked
      refine ⟨⟨got, hlead, hdelivered⟩, fun after hafter hempty hprompt => ?_⟩
      cases hafter
      rw [← hall ⟨hempty, hprompt⟩]
      exact hdelivered
  | error status behind =>
      rw [hresult] at hrun hasked
      obtain ⟨got, hlead, hdelivered, -⟩ := hknown hrun hasked
      refine ⟨⟨got, hlead, hdelivered⟩, fun after hafter => ?_⟩
      cases hafter

/-! A SELECT of two rows. -/

theorem streamLoop_twice {stmtId count : Int} {client first again last : Client}
    (hfirst : streamRound caps (some streaming) client = .ok count first)
    (hcount : 0 < count)
    (hnext : streamFetch choice stmtId (count + 1) first = .ok () again)
    (hlast : streamRound caps (some streaming) again = .ok 0 last) :
    streamLoop caps choice (some streaming) stmtId client = .ok () last := by
  rw [streamLoop_apply, hfirst]
  dsimp only
  rw [if_neg (Int.not_le.mpr hcount), bind_apply, hnext]
  dsimp only
  rw [streamLoop_apply, hlast]
  rfl

def smallintSelect : Describe :=
  ⟨2, 7, 0, 2, [⟨0, 0, 1, 2, 0, [], [], 0, 0, 0⟩], [110, 0]⟩

/-- The rows come as one group. -/
def groupReply : List Message :=
  [.tuple 0 [0, 7], .tuple 0 [0, 8], .done ⟨0, 2, 2, 0⟩, .eot]

def streamedClient : Client := promptClient
  [[.describe smallintSelect, .eot], [.eot], groupReply,
    [.done ⟨0, 2, 2, 0⟩, .eot], [.eot], [.eot]]

/-- A callback that takes every row. -/
def everyRow : Streaming where
  calloc := true
  scrollFetch := fun _ _ => ⟨.ioError, ⟨[], no_rows_le⟩, none, false, 0, false⟩
  aborts := fun _ _ => false

def streamedStart : Client := stateOf ((do
  checkReady
  newResult sampleChoice
  request (.prepare [])
  receive sampleCaps .prepareRecv
  autobegin sampleCaps
  checkPrepared
  request (.open 7)
  receive sampleCaps .otherRecv
  nextFetch 7 : Exchange Unit) streamedClient)

def streamedFirst : Client :=
  stateOf (streamRound sampleCaps (some everyRow) streamedStart)

def streamedAgain : Client := stateOf (nextFetch 7 streamedFirst)

def streamedLast : Client :=
  stateOf (streamRound sampleCaps (some everyRow) streamedAgain)

def streamedEnd : Client := stateOf ((do
  closeRelease sampleCaps 7
  updateResult forgetStatement
  track : Exchange Unit) streamedLast)

theorem queryStream_streamed :
    queryStream sampleCaps sampleChoice (some everyRow) [] streamedClient =
      .ok () streamedEnd := by
  have hloop : streamLoop sampleCaps sampleChoice (some everyRow) 7
      streamedStart = .ok () streamedLast :=
    @streamLoop_twice sampleCaps sampleChoice everyRow 7 2 _ streamedFirst
      streamedAgain _ rfl (by decide) rfl rfl
  have hselect : runStream sampleCaps sampleChoice (some everyRow) (stateOf ((do
        checkReady
        newResult sampleChoice
        request (.prepare [])
        receive sampleCaps .prepareRecv
        autobegin sampleCaps
        checkPrepared : Exchange Unit) streamedClient)) =
      .ok () (stateOf ((do
        closeRelease sampleCaps 7
        updateResult forgetStatement : Exchange Unit) streamedLast)) :=
    bind_eq_ok.mpr ⟨(), _, rfl, bind_eq_ok.mpr ⟨(), _, rfl, bind_eq_ok.mpr
      ⟨(), streamedStart, rfl, bind_eq_ok.mpr ⟨(), streamedLast, hloop, rfl⟩⟩⟩⟩
  have hanswer : answerStream sampleCaps sampleChoice (some everyRow) (stateOf ((do
        checkReady
        newResult sampleChoice
        request (.prepare []) : Exchange Unit) streamedClient)) =
      .ok () streamedEnd :=
    bind_eq_ok.mpr ⟨(), _, rfl, bind_eq_ok.mpr ⟨(), _, rfl, bind_eq_ok.mpr
      ⟨(), _, rfl, bind_eq_ok.mpr ⟨(), _, hselect, rfl⟩⟩⟩⟩
  have hguarded : onError (answerStream sampleCaps sampleChoice (some everyRow))
      (destroyResult sampleCaps) (stateOf ((do
        checkReady
        newResult sampleChoice
        request (.prepare []) : Exchange Unit) streamedClient)) =
      .ok () streamedEnd := by
    unfold onError
    rw [hanswer]
  exact bind_eq_ok.mpr ⟨(), _, rfl, bind_eq_ok.mpr ⟨(), _, rfl, bind_eq_ok.mpr
    ⟨(), _, rfl, bind_eq_ok.mpr ⟨(), _, hguarded, rfl⟩⟩⟩⟩

/-- The requests of the call and their answers. -/
def streamedAsked : List (Request × List Message) :=
  [(.prepare [], [.describe smallintSelect, .eot]), (.open 7, [.eot]),
    (.fetch 7, groupReply), (.fetch 7, [.done ⟨0, 2, 2, 0⟩, .eot]),
    (.close 7, [.eot]), (.release 7, [.eot])]

theorem streamedAsked_served : Serves [[0, 7], [0, 8]] streamedAsked [] := by
  have hdescribe : Describes [.describe smallintSelect, .eot] :=
    ⟨[], smallintSelect, [], [.eot], rfl, nofun, rfl, nofun, .plain⟩
  have hended : Acknowledges [.eot] := ⟨[], rfl, nofun⟩
  have hbatch : Brings [[0, 7], [0, 8]] groupReply :=
    ⟨[.tuple 0 [0, 7], .tuple 0 [0, 8]], [.done ⟨0, 2, 2, 0⟩, .eot], rfl,
      by decide, rfl, @Ending.done ⟨0, 2, 2, 0⟩ [] nofun⟩
  have hfinish : Finishes [.done ⟨0, 2, 2, 0⟩, .eot] :=
    ⟨[], ⟨0, 2, 2, 0⟩, [], rfl, nofun, nofun⟩
  have hprepared := (@Serves.start [[0, 7], [0, 8]]).answer
    (@Answers.prepare _ [] [] _ hdescribe)
  have hopened := hprepared.answer (@Answers.opened _ _ 7 _ hended)
  have hfetched := hopened.answer
    (@Answers.batch _ [[0, 7], [0, 8]] [] 7 _ (by decide) hbatch)
  have hfinished := hfetched.answer (@Answers.finish _ 7 _ hfinish)
  have hclosed := hfinished.answer
    (@Answers.control _ _ (.close 7) _ rfl hended)
  exact hclosed.answer (@Answers.control _ _ (.release 7) _ rfl hended)

theorem queryStream_delivers_two :
    (∃ got, got <+: [[0, 7], [0, 8]] ∧
      (stateOf (queryStream sampleCaps sampleChoice (some everyRow) []
        streamedClient)).delivered = streamedClient.delivered ++ got) ∧
      ∀ after, queryStream sampleCaps sampleChoice (some everyRow) []
          streamedClient = .ok () after → streamedClient.incoming = [] →
        Prompt streamedClient.scene →
          after.delivered = streamedClient.delivered ++ [[0, 7], [0, 8]] := by
  have hasked : (stateOf (queryStream sampleCaps sampleChoice (some everyRow)
      [] streamedClient)).asked = streamedClient.asked ++ streamedAsked := by
    rw [queryStream_streamed]
    rfl
  exact queryStream_delivers rfl stale_nil hasked streamedAsked_served

end Libsqli.Session
