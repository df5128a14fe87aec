import Libsqli.Handshake.Object

namespace Libsqli.Handshake

open Libsqli.Data.Bytes
open Libsqli.Data.Stream
open Libsqli.Receive

/-! `sqli_connect`. -/

/-- What is around a call: the encoders and the services that it uses, and what the
server makes of the database once it is opened. -/
structure World where
  -- `getpwuid`
  localUser : Option (List UInt8)
  -- `sqli_charset_decoder_open_locales`
  opensDecoder : List UInt8 → List UInt8 → Bool
  -- `sqli_tcp_connect` and `sqli_unix_connect`
  opensSocket : List UInt8 → List UInt8 → Int
  timesOut : Bool
  -- `sqli_tls_connect`, with what it reports
  tls : List UInt8 → Status × Option String
  -- `sqli_asc_encode_conreq` and `sqli_asc_encode_ipc_preamble`
  encodeConreq : Strings → List UInt8
  encodePreamble : Strings → List UInt8
  -- whether more has arrived behind the answer to SQ_INFO, and behind the first
  -- messages about the database
  infoExtra : Bool
  dbopenExtra : Bool
  -- the messages that answer SQ_DBOPEN
  answer : List Message

/-- `sqli_connect_params` -/
abbrev Params := Slot → Option (List UInt8)

/-- A handshake at work. -/
structure Shaking where
  conn : Connection
  sends : Nat → Bool
  allocs : Nat → Bool
  -- what the looks ahead of a reception find
  looks : Nat → Bool
  sent : List (List UInt8)
  softAccepted : Bool

abbrev Step := Reading Failure Shaking

def update (change : Connection → Connection) : Step Unit := fun state =>
  .ok () { state with own :=
    { state.own with conn := change state.own.conn } }

/-- A condition that the connection has to meet. -/
def require (refusal : Connection → Option Failure) : Step Unit := fun state =>
  match refusal state.own.conn with
  | none => .ok () state
  | some failure => .error failure state

def transmit (bytes : Connection → List UInt8) (failure : Failure) :
    Step Unit := fun state =>
  let spent := { state.own with sends := fun index => state.own.sends (index + 1) }
  if state.own.sends 0 then
    .ok () { state with own :=
      { spent with sent := spent.sent ++ [bytes state.own.conn] } }
  else .error failure { state with own := spent }

def allocate : Step Unit := fun state =>
  let spent :=
    { state.own with allocs := fun index => state.own.allocs (index + 1) }
  if state.own.allocs 0 then .ok () { state with own := spent }
  else .error { status := .allocFail } { state with own := spent }

def enter (phase : ConnState) (context : String) (opcode : Nat) : Step Unit :=
  update fun conn => { conn.setErrorContext context opcode with state := phase }

/-! The strings. -/

def Slot.label : Slot → String
  | .hostname => "hostname"
  | .service => "service"
  | .server => "server"
  | .database => "database"
  | .username => "username"
  | .password => "password"
  | .clientLocale => "client_locale"
  | .dbLocale => "db_locale"

def copySlot (params : Params) (slot : Slot) : Step Unit := fun state =>
  match strCopy (state.own.conn.strings slot) (params slot) with
  | some text => .ok () { state with own := { state.own with
      conn := state.own.conn.withString slot text } }
  | none => .error
      { status := .invalidState
        message := some ("connect: " ++ slot.label ++ " exceeds " ++
          toString (slot.size - 1) ++ "-byte limit") } state

/-- The strings in the order in which they are copied. -/
def slots : List Slot :=
  [.hostname, .service, .server, .database, .username, .password,
    .clientLocale, .dbLocale]

def copyStrings (params : Params) : List Slot → Step Unit
  | [] => pure ()
  | slot :: rest => do
      copySlot params slot
      copyStrings params rest

/-- A service that is a path is a Unix socket. -/
def Strings.isPath (strings : Strings) : Bool :=
  (strings .service).val.head? == some 47

/-- `setup_locale_decoder`, and an empty read buffer. -/
def resetReading (world : World) (conn : Connection) : Connection :=
  { conn with
    decodes := world.opensDecoder (conn.strings .clientLocale).val
      (conn.strings .dbLocale).val
    buffered := [] }

/-- The local user, where none is named; `none` if that name is too long. -/
def localName (user : Option (List UInt8)) (name : Text 256) :
    Option (Text 256) :=
  if name.val = [] then strCopy name user else some name

/-- On a Unix socket the user is the local one by default, without a password. -/
def Strings.localized (user : Option (List UInt8)) (strings : Strings) :
    Option Strings :=
  if strings.isPath then
    (localName user (strings .username)).map fun name => Function.update
      (Function.update strings .username name) .password ⟨[], by decide⟩
  else some strings

def localUser (world : World) : Step Unit := fun state =>
  match state.own.conn.strings.localized world.localUser with
  | none => .error
      { status := .invalidState
        message := "connect: local username exceeds 255-byte limit" } state
  | some strings => .ok () { state with own := { state.own with
      conn := { state.own.conn with strings := strings } } }

/-! The exchange. -/

def display (text : List UInt8) : String :=
  String.ofList (text.map fun byte => Char.ofNat byte.toNat)

/-- The socket is opened, with TLS where that is asked for. -/
def openSocket (world : World) : Step Unit := do
  update fun conn => { conn.setErrorContext
    (if conn.strings.isPath then "connect/unix" else "connect/tcp") 0 with
      state := .connecting
      socketFd := world.opensSocket (conn.strings .hostname).val
        (conn.strings .service).val }
  require fun conn =>
    if conn.socketFd < 0 then
      some
        { status := .ioError
          message := some (if conn.strings.isPath then
              "Unix socket connection failed: " ++
                display (conn.strings .service).val
            else if world.timesOut then
              "TCP connection timed out - server did not respond"
            else "TCP connection failed") }
    else none
  require fun conn =>
    let secured := world.tls (conn.strings .hostname).val
    if hfailed : secured.1 ≠ .ok then
      some ⟨secured.1, secured.2, none, .err, hfailed⟩
    else none

def slHeaderBytes (length : Nat) : List UInt8 :=
  bigEndian 2 (length + slHeaderSize) ++ [1, 60] ++ bigEndian 2 0

/-- The connection request over TCP, and its answer. -/
def introduceTcp (world : World) : Step Answer := do
  enter .handshake "connect/conreq" slConreq
  require fun conn =>
    if world.encodeConreq conn.strings = [] then
      some
        { status := .protoError
          message := "failed to encode connection request" }
    else none
  transmit (fun conn =>
      slHeaderBytes (world.encodeConreq conn.strings).length ++
        world.encodeConreq conn.strings)
    { status := .ioError, message := "failed to send connection request" }
  let (length, rejected) ← slHeader
  allocate
  slBody length rejected

/-- The preamble over a Unix socket, and its answer. -/
def introduceIpc (world : World) : Step Answer := do
  enter .handshake "connect/ipc_greeting" 0
  ipcGreeting
  update fun conn => conn.setErrorContext "connect/ipc_preamble" 0
  require fun conn =>
    if world.encodePreamble conn.strings = [] then
      some
        { status := .protoError, message := "failed to encode IPC preamble" }
    else none
  transmit (fun conn => world.encodePreamble conn.strings)
    { status := .ioError, message := "failed to send IPC preamble" }
  update fun conn => conn.setErrorContext "connect/ipc_conacc" 0
  let length ← ipcLength
  allocate
  ipcBody length

def introduce (world : World) : Step Answer := fun state =>
  if state.own.conn.strings.isPath then introduceIpc world state
  else introduceTcp world state

/-- `set_connect_service_error` -/
def serviceFailure (answer : Answer) (code : Int) : Failure :=
  { status := .authFail
    message := some ("server rejected connection during " ++ answer.phase ++
      " (svcError=" ++ toString code ++ ")")
    context := some (answer.phase, answer.opcode)
    reported := .authFail }

/-- `parse_conacc_body`, and the rejection that is no error. -/
def hearAnswer (answer : Answer) : Step Unit := do
  require fun _ =>
    if answer.body.length < 4 then some { status := .protoError }
    else none
  update fun conn => { conn with caps := conn.caps.heardBody answer.body }
  require fun _ =>
    let code := serviceError (answer.body.drop (scanStart answer.body))
    if code = 0 then none else some (serviceFailure answer code)
  (fun state => .ok () { state with own :=
    { state.own with softAccepted := answer.rejected } } : Step Unit)

def protocolsRequest : List UInt8 :=
  [0x00, 0x7E, 0x00, 0x09, 0xFF, 0xFC, 0x7F, 0xFC, 0x3C, 0x8C, 0xAA, 0x97,
    0x06, 0x00, 0x00, 0x0C]

/-- The first half of `do_sq_protocols`. -/
def askProtocols : Step Protocols := do
  update fun conn => conn.setErrorContext "connect/protocols" sqProtocols
  transmit (fun _ => protocolsRequest)
    (protocolsFailure .ioError "failed to send")
  protocolsReply

/-- The second half of `do_sq_protocols`. -/
def hearProtocols (protocols : Protocols) : Step Unit := do
  update fun conn => { conn with caps := conn.caps.heardProtocols protocols }
  let trailing ← readNatural
    (protocolsFailure .ioError "failed to read trailing EOT") 2
  require fun _ =>
    if trailing ≠ sqEot then
      some (protocolsFailure .protoError
        ("expected trailing EOT, got " ++ toString trailing))
    else none

/-! PAM. -/

def ackEot : List UInt8 := bigEndian 2 sqAck ++ bigEndian 2 sqEot

def pamPasswordMax : Nat := 512

def unreadable : Failure := { status := .ioError }

/-- The password goes out for a challenge that asks for it. -/
def pamRespond : Step Unit := do
  require fun conn =>
    if pamPasswordMax < (conn.strings .password).val.length then
      some
        { status := .invalidState
          message := "PAM: password exceeds 512-byte response limit" }
    else none
  allocate
  transmit (fun conn =>
      bigEndian 2 sqResponse ++
        bigEndian 2 (conn.strings .password).val.length ++
        padEven (conn.strings .password).val)
    { status := .ioError, message := "PAM: failed to send password response" }

/-- A challenge, behind its opcode. -/
def pamChallenge : Step Unit := do
  let style ← readNatural unreadable 2
  let _ ← readNatural unreadable 2
  let length ← readNatural unreadable 2
  let _ ← readExact unreadable (length + length % 2)
  if style = 3 ∨ style = 4 then
    transmit (fun _ => ackEot)
      { status := .ioError
        message := "PAM: failed to send informational ACK+EOT" }
  else pamRespond

def pamRound (_ : Unit) : Step (Unit ⊕ Unit) := do
  let opcode ← readNatural unreadable 2
  if opcode = sqAccept then return .inr ()
  else if opcode = sqExit then
    throw
      { status := .authFail, message := "PAM: server rejected authentication" }
  else if opcode ≠ sqChallenge then
    throw
      { status := .protoError
        message := some ("PAM: unexpected opcode " ++ toString opcode) }
  else do
    pamChallenge
    return .inl ()

/-- `do_pam_handshake` -/
def pamHandshake : Step Unit := do
  update fun conn => conn.setErrorContext "connect/pam" sqChallenge
  transmit (fun _ => ackEot)
    { status := .ioError, message := "PAM: failed to send ACK+EOT" }
  forever unreadable pamRound ()

def authenticate : Step Unit := fun state =>
  if state.own.conn.caps.hasPam then
    (do
      update fun conn => { conn with state := .auth }
      pamHandshake : Step Unit) state
  else .ok () state

/-! The environment and the database. -/

/-- `SQ_INFO` with DBTEMP and SUBQCACHE SZ. -/
def infoRequest : List UInt8 :=
  let name := [68, 66, 84, 69, 77, 80]
  let value := [47, 116, 109, 112]
  let other := [83, 85, 66, 81, 67, 65, 67, 72, 69, 32, 83, 90]
  let size := [49, 48]
  let entries := [name, value, other, size].flatMap fun text =>
    bigEndian 2 text.length ++ padEven text
  bigEndian 2 sqInfo ++ bigEndian 2 6 ++ bigEndian 2 (entries.length + 8) ++
    bigEndian 2 (padEven other).length ++ bigEndian 2 (padEven value).length ++
    entries ++ bigEndian 2 0 ++ bigEndian 2 0 ++ bigEndian 2 sqEot

/-- What has arrived behind the answer is dropped, up to 256 octets. -/
def dropExtra (arrived : Bool) : Step Unit := fun state =>
  .ok () (if arrived then { state with unread := state.unread.drop 256 }
    else state)

def inform (world : World) : Step Unit := do
  enter .info "connect/info" sqInfo
  transmit (fun _ => infoRequest)
    { status := .ioError, message := "failed to send SQ_INFO" }
  let response ← readNatural
    { status := .ioError, message := "failed to read SQ_INFO response" } 2
  require fun _ =>
    if response ≠ sqEot then
      some
        { status := .protoError
          message := some ("SQ_INFO: expected EOT (12), got " ++
            toString response) }
    else none
  dropExtra world.infoExtra

/-- The database by default: `informix`. -/
def defaultDatabase : List UInt8 := [105, 110, 102, 111, 114, 109, 105, 120]

def databaseName (params : Params) : List UInt8 :=
  match params .database with
  | none => defaultDatabase
  | some name => if name = [] then defaultDatabase else name

def dbopenRequest (name : List UInt8) : List UInt8 :=
  bigEndian 2 sqDbopen ++ bigEndian 2 name.length ++ padEven name ++
    bigEndian 2 0 ++ bigEndian 2 sqEot

/-- The capabilities that reception depends on. -/
def Connection.reception (conn : Connection) : Receive.Capabilities where
  longRowId := conn.caps.longRowId
  remove64kLimit := conn.caps.remove64kLimit
  extendedDescribe := conn.caps.extendedDescribe
  strictProtocol := conn.settings.strictProtocol

def Connection.diagnostic (conn : Connection) : Diagnostic :=
  match conn.report with
  | none => .clear
  | some report => ⟨true, report.sqlcode⟩

/-- What a reception has recorded of an error. -/
def Connection.recorded (diagnostic : Diagnostic) (conn : Connection) :
    Connection :=
  if diagnostic = conn.diagnostic then conn
  else { conn with report := some ⟨.err, diagnostic.sqlcode, conn.errorContext,
    conn.errorOpcode, ""⟩ }

/-- `sqli_receive_dispatch` into a throw-away result. -/
def dispatch : Step Unit := fun state =>
  let conn := state.own.conn
  let reception := receiveDispatch conn.reception .otherRecv conn.buffered
    ⟨state.own.looks, state.own.allocs, blankResult, conn.diagnostic⟩
  let after := { state with own := { state.own with
    allocs := reception.scene.allocs
    looks := reception.scene.looks
    conn := { conn.recorded reception.scene.diagnostic with
      buffered := reception.messages } } }
  if hfailed : reception.status ≠ .ok then
    .error ⟨reception.status,
      if reception.scene.diagnostic.hasError then none
      else some "SQ_DBOPEN response error", none, .err, hfailed⟩ after
  else .ok () after

def dispatchExtra (world : World) : Step Unit := fun state =>
  if world.dbopenExtra then dispatch state else .ok () state

def openDatabase (world : World) (params : Params) : Step Unit := do
  enter .dbopen "connect/dbopen" sqDbopen
  transmit (fun _ => dbopenRequest (databaseName params))
    { status := .ioError, message := "failed to send SQ_DBOPEN" }
  update fun conn => { conn with buffered := conn.buffered ++ world.answer }
  dispatch
  dispatchExtra world
  update fun conn =>
    ({ conn with state := .ready, databaseOpen := true } : Connection).clearError

/-- The strings, before anything is sent. -/
def settle (world : World) (params : Params) : Step Unit := do
  copyStrings params slots
  update (resetReading world)
  localUser world

/-- What follows the exchange of capabilities. -/
def establish (world : World) (params : Params) : Step Unit := do
  authenticate
  inform world
  openDatabase world params

/-- The handshake with the server. -/
def exchange (world : World) (params : Params) : Step Unit := do
  openSocket world
  let answer ← introduce world
  hearAnswer answer
  let protocols ← askProtocols
  hearProtocols protocols
  establish world params

/-- The handshake behind the checks. -/
def shake (world : World) (params : Params) : Step Unit := do
  settle world params
  exchange world params

/-- What the exit of a failed step records. -/
def Connection.reported (failure : Failure) (conn : Connection) : Connection :=
  match failure.message with
  | none => conn
  | some message =>
      let place := failure.context.getD (conn.errorContext, conn.errorOpcode)
      let placed := conn.setErrorContext place.1 place.2
      { placed with
        report := some ⟨failure.reported, 0, place.1, place.2, message⟩ }

/-- A rejection that was passed over explains what has failed after it. -/
def Connection.explained (conn : Connection) : Connection :=
  let text := (conn.report.map ErrorReport.message).getD ""
  conn.setError ("server rejected connection (CONREJ, svcError=0) and did " ++
    "not complete the handshake: " ++ text)

/-- The exit of a handshake that has failed. -/
def Shaking.failed (failure : Failure) (own : Shaking) : Shaking :=
  let conn := own.conn.reported failure
  let told := if own.softAccepted then conn.explained else conn
  { own with conn := { told with
    socketFd := if 0 ≤ told.socketFd then -1 else told.socketFd
    state := .error } }

/-- The checks that `sqli_connect` makes before it touches the connection. -/
def precheck (params : Params) (conn : Connection) : Option String :=
  if conn.state ≠ .closed then some "connection already in use"
  else if params .hostname = none ∨ params .service = none then
    some "hostname and service are required"
  else none

/-- `sqli_connect` -/
def connect (world : World) (params : Params) (state : Incoming Shaking) :
    Status × Incoming Shaking :=
  let conn := state.own.conn
  if conn.lifecycle ≠ .clear then (.invalidState, state)
  else
    match precheck params conn.clearError with
    | some message => (.invalidState, { state with own := { state.own with
        conn := (conn.clearError.setErrorContext "connect/precheck" 0).setError
          message } })
    | none =>
        match shake world params { state with own :=
            { state.own with conn := conn.clearError } } with
        | .ok () after => (.ok, after)
        | .error failure after =>
            (failure.status, { after with own := after.own.failed failure })

end Libsqli.Handshake
