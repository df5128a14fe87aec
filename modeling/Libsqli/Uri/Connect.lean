import Libsqli.Status
import Libsqli.Uri.Query

namespace Libsqli.Uri

open Libsqli.Data
open Libsqli.Data.Ctype
open Libsqli.Data.Span

/-! `sqli_connect_uri` as far as its call of `sqli_connect`. -/

inductive UriProtocol where
  | onsoctcp
  | onsocssl
  | onipcstr
  deriving DecidableEq

/-- `detect_protocol`; none is an unknown one. -/
def detectProtocol (scheme : List UInt8) : Option UriProtocol :=
  if 9 < scheme.length ∧ scheme.take 9 = octets "informix+" then
    if scheme.drop 9 = octets "onsoctcp" then some .onsoctcp
    else if scheme.drop 9 = octets "onsocssl" then some .onsocssl
    else if scheme.drop 9 = octets "onipcstr" then some .onipcstr
    else none
  else none

/-- `sqli_connect_params` -/
structure ConnectParams where
  server : List UInt8
  hostname : List UInt8
  service : List UInt8
  database : List UInt8
  username : Option (List UInt8)
  password : Option (List UInt8)
  clientLocale : Option (List UInt8)
  dbLocale : Option (List UInt8)
  sslEnable : Bool
  sslVerifyPeer : Bool
  sslCaFile : Option (List UInt8)
  deriving DecidableEq

/-- What the function asks the system for. -/
structure Surroundings where
  malloc : Bool
  informixtmp : Option (List UInt8)
  /-- Whether `/INFORMIXTMP` is there. -/
  informixtmpDir : Bool
  pwName : Option (List UInt8)

/-- The first socket path that applies, as `default_socket` is meant to hold
it. -/
def defaultSocket (system : Surroundings) (server : List UInt8) : List UInt8 :=
  if system.informixtmp.getD [] ≠ [] then
    system.informixtmp.getD [] ++ octets "/" ++ server ++ octets ".str"
  else if system.informixtmpDir then
    octets "/INFORMIXTMP/" ++ server ++ octets ".str"
  else octets "/tmp/.infosock." ++ server

/-- `decoded_uri_user` and `decoded_uri_pass` -/
def uriCredentials (userinfo : List UInt8) : List UInt8 × List UInt8 :=
  if userinfo = [] then ([], [])
  else
    match cut colon userinfo with
    | some (user, pass) => (decodedText 256 user, decodedText 256 pass)
    | none => (decodedText 256 userinfo, [])

/-- Explicit credentials if provided, else those of the URI. -/
def chosen (explicit : Option (List UInt8)) (decoded : List UInt8) :
    Option (List UInt8) :=
  if explicit.getD [] ≠ [] then explicit
  else if decoded ≠ [] then some decoded
  else none

def affirmative (sslVerify : List UInt8) : Bool :=
  sslVerify.map toLower == octets "true" ||
    sslVerify.map toLower == octets "yes" || sslVerify == octets "1"

abbrev Refusal := Status × String

def orRefuse {α : Type} (value : Option α) (status : Status)
    (message : String) : Except Refusal α :=
  match value with
  | some value => .ok value
  | none => .error (status, message)

def nonEmpty (text : List UInt8) : Option (List UInt8) :=
  if text = [] then none else some text

/-- The parameters before the handling of the protocol. -/
def commonParams (comps : UriComponents) (entries : List UriQueryEntry)
    (server : List UInt8) (username password : Option (List UInt8)) :
    ConnectParams :=
  let path := copyRange 256 comps.path
  let decoded := uriCredentials (copyRange 256 comps.userinfo)
  { server := server
    hostname := []
    service := []
    database := if path = [] then octets "informix" else path
    username := chosen username decoded.1
    password := chosen password decoded.2
    clientLocale := findQueryValue entries (octets "CLIENT_LOCALE")
    dbLocale := findQueryValue entries (octets "DB_LOCALE")
    sslEnable := false
    sslVerifyPeer := false
    sslCaFile := none }

/-- The case of `onipcstr`. -/
def socketParams (system : Surroundings) (entries : List UriQueryEntry)
    (params : ConnectParams) : ConnectParams :=
  { params with
    service := (findQueryValue entries (octets "SOCKET_PATH")).getD
      ((defaultSocket system params.server).take 511)
    username := params.username.or
      (system.pwName.map fun name => (held name).take 255)
    password := none }

/-- The parameters of a connection to a host. -/
def hostParams (proto : UriProtocol) (entries : List UriQueryEntry)
    (hostname port : List UInt8) (params : ConnectParams) : ConnectParams :=
  { params with
    hostname := hostname
    service := port
    sslEnable := proto = .onsocssl
    sslVerifyPeer := ((findQueryValue entries (octets "SSL_VERIFY_PEER")).map
      affirmative).getD true
    sslCaFile := findQueryValue entries (octets "SSL_CA_FILE") }

/-- The cases of `onsoctcp` and `onsocssl`. -/
def handleHost (proto : UriProtocol) (comps : UriComponents)
    (entries : List UriQueryEntry) (params : ConnectParams) :
    Except Refusal ConnectParams := do
  let hostname ← orRefuse (nonEmpty (copyRange 256 comps.host)) .invalidState
    "hostname is required for onsoctcp/onsocssl protocol"
  let port ← orRefuse (nonEmpty (copyRange 16 comps.port)) .invalidState
    "port is required for onsoctcp/onsocssl protocol"
  .ok (hostParams proto entries hostname port params)

def unsupportedScheme : String := "unsupported URI scheme: " ++
  "use informix+onsoctcp, informix+onsocssl, or informix+onipcstr"

/-- What is done with the components of a supported scheme. -/
def connectComponents (system : Surroundings) (comps : UriComponents)
    (proto : UriProtocol) (username password : Option (List UInt8)) :
    Except Refusal ConnectParams := do
  let entries ← orRefuse
    (parseQueryString system.malloc (copyRange 1024 comps.query) 32)
    .allocFail "memory allocation failed for query parameters"
  let server ← orRefuse (findQueryValue entries (octets "INFORMIXSERVER"))
    .invalidState "INFORMIXSERVER query parameter is mandatory"
  let params := commonParams comps entries server username password
  match proto with
  | .onipcstr => .ok (socketParams system entries params)
  | .onsoctcp | .onsocssl => handleHost proto comps entries params

/-- `sqli_connect_uri` with a connection: the parameters that `sqli_connect` is
called with, or what is refused before. -/
def connectUri (system : Surroundings) (uri : Option (List UInt8))
    (username password : Option (List UInt8)) :
    Except Refusal ConnectParams := do
  let uri ← orRefuse (uri.bind nonEmpty) .invalidState
    "uri and conn are required"
  let comps ← orRefuse (parseUriComponents (some uri)) .invalidState
    "failed to parse connection URI"
  let proto ← orRefuse (detectProtocol (copyRange 64 comps.scheme))
    .invalidState unsupportedScheme
  connectComponents system comps proto username password

/-! The parameters that `sqli_connect` is called with. -/

variable {system : Surroundings} {uri : List UInt8} {comps : UriComponents}
  {proto : UriProtocol} {username password : Option (List UInt8)}
  {entries : List UriQueryEntry} {server : List UInt8}

theorem orRefuse_bind_ok_iff {α β : Type} {value : Option α} {status : Status}
    {message : String} {next : α → Except Refusal β} {result : β} :
    (orRefuse value status message >>= next) = .ok result ↔
      ∃ got, value = some got ∧ next got = .ok result := by
  cases value with
  | none => exact ⟨fun h => (by cases h), fun ⟨_, h, _⟩ => (by cases h)⟩
  | some got =>
      exact ⟨fun h => ⟨got, rfl, h⟩, fun ⟨_, h, hnext⟩ => by
        cases h
        exact hnext⟩

theorem length_scheme (hproto : detectProtocol comps.scheme = some proto) :
    comps.scheme.length = 17 := by
  have hdrop : (comps.scheme.drop 9).length = 8 := by
    rw [detectProtocol] at hproto
    split at hproto
    · split at hproto
      · next h => rw [h]; rfl
      · split at hproto
        · next h => rw [h]; rfl
        · split at hproto
          · next h => rw [h]; rfl
          · cases hproto
    · cases hproto
  rw [List.length_drop] at hdrop
  omega

theorem connectUri_supported
    (hparse : parseUriComponents (some uri) = some comps)
    (hproto : detectProtocol comps.scheme = some proto) :
    connectUri system (some uri) username password =
      connectComponents system comps proto username password := by
  have huri : uri ≠ [] := by
    rintro rfl
    cases hparse
  have hscheme : copyRange 64 comps.scheme = comps.scheme :=
    (copyRange_eq_iff (by decide)).mpr (by rw [length_scheme hproto]; decide)
  rw [connectUri, Option.bind_some, nonEmpty, if_neg huri]
  change (orRefuse (parseUriComponents (some uri)) _ _ >>= _) = _
  rw [hparse]
  change (orRefuse (detectProtocol (copyRange 64 comps.scheme)) _ _ >>= _) = _
  rw [hscheme, hproto]
  rfl

/-- The parameters of a protocol. -/
def protocolParams (system : Surroundings) (comps : UriComponents)
    (proto : UriProtocol) (entries : List UriQueryEntry)
    (params : ConnectParams) : ConnectParams :=
  if proto = .onipcstr then socketParams system entries params
  else hostParams proto entries (copyRange 256 comps.host)
    (copyRange 16 comps.port) params

theorem nonEmpty_eq_some_iff {text got : List UInt8} :
    nonEmpty text = some got ↔ text ≠ [] ∧ text = got := by
  rw [nonEmpty]
  by_cases htext : text = []
  · rw [if_pos htext]
    exact ⟨fun h => (by cases h), fun h => absurd htext h.1⟩
  · rw [if_neg htext, Option.some.injEq]
    exact ⟨fun h => ⟨htext, h⟩, fun h => h.2⟩

theorem copyRange_ne_nil_iff {size : Nat} (hsize : 1 < size)
    {text : List UInt8} : copyRange size text ≠ [] ↔ text ≠ [] := by
  rw [copyRange, Ne, List.take_eq_nil_iff]
  exact not_congr ⟨fun h => h.resolve_left (by omega), Or.inr⟩

theorem handleHost_ok_iff {params result : ConnectParams} :
    handleHost proto comps entries params = .ok result ↔
      (comps.host ≠ [] ∧ comps.port ≠ []) ∧
        result = hostParams proto entries (copyRange 256 comps.host)
          (copyRange 16 comps.port) params := by
  rw [handleHost, orRefuse_bind_ok_iff]
  constructor
  · rintro ⟨hostname, hhost, hrest⟩
    obtain ⟨port, hport, hok⟩ := orRefuse_bind_ok_iff.mp hrest
    obtain ⟨hhostname, rfl⟩ := nonEmpty_eq_some_iff.mp hhost
    obtain ⟨hservice, rfl⟩ := nonEmpty_eq_some_iff.mp hport
    exact ⟨⟨(copyRange_ne_nil_iff (by decide)).mp hhostname,
      (copyRange_ne_nil_iff (by decide)).mp hservice⟩,
      (Except.ok.inj hok).symm⟩
  · rintro ⟨⟨hhost, hport⟩, rfl⟩
    have hhostname := (copyRange_ne_nil_iff (show 1 < 256 by decide)).mpr hhost
    have hservice := (copyRange_ne_nil_iff (show 1 < 16 by decide)).mpr hport
    exact ⟨_, nonEmpty_eq_some_iff.mpr ⟨hhostname, rfl⟩,
      orRefuse_bind_ok_iff.mpr
        ⟨_, nonEmpty_eq_some_iff.mpr ⟨hservice, rfl⟩, rfl⟩⟩

theorem connectComponents_ok_iff {result : ConnectParams} :
    connectComponents system comps proto username password = .ok result ↔
      ∃ entries, parseQueryString system.malloc
          (copyRange 1024 comps.query) 32 = some entries ∧
        ∃ server, findQueryValue entries (octets "INFORMIXSERVER") =
            some server ∧
          (proto ≠ .onipcstr → comps.host ≠ [] ∧ comps.port ≠ []) ∧
          result = protocolParams system comps proto entries
            (commonParams comps entries server username password) := by
  rw [connectComponents, orRefuse_bind_ok_iff]
  refine exists_congr fun entries => and_congr_right fun _ => ?_
  rw [orRefuse_bind_ok_iff]
  refine exists_congr fun server => and_congr_right fun _ => ?_
  cases proto with
  | onipcstr =>
      exact ⟨fun h => ⟨fun hproto => absurd rfl hproto,
        (Except.ok.inj h).symm⟩, fun h => congrArg _ h.2.symm⟩
  | onsoctcp =>
      exact handleHost_ok_iff.trans (and_congr_left fun _ =>
        ⟨fun h _ => h, fun h => h (by decide)⟩)
  | onsocssl =>
      exact handleHost_ok_iff.trans (and_congr_left fun _ =>
        ⟨fun h _ => h, fun h => h (by decide)⟩)

end Libsqli.Uri
