import Libsqli.Uri.Connect

namespace Libsqli.Uri

open Libsqli.Data
open Libsqli.Data.Ctype
open Libsqli.Data.Span

/-! What a URI asks for. -/

def splitCredentials (userinfo : List UInt8) : List UInt8 × List UInt8 :=
  (cut colon userinfo).getD (userinfo, [])

/-- The decoded value of the first non-empty parameter of a name. -/
def UriComponents.value (comps : UriComponents) (name : List UInt8) :
    Option (List UInt8) :=
  findQueryValue (queryParameters comps.query) name

def UriComponents.user (comps : UriComponents) : List UInt8 :=
  Percent.decode (splitCredentials comps.userinfo).1

def UriComponents.pass (comps : UriComponents) : List UInt8 :=
  Percent.decode (splitCredentials comps.userinfo).2

/-- Every component is whole in its buffer, every parameter in the table. -/
structure Whole (system : Surroundings) (comps : UriComponents) : Prop where
  path : copyRange 256 comps.path = comps.path
  query : copyRange 1024 comps.query = comps.query
  userinfo : copyRange 256 comps.userinfo = comps.userinfo
  host : copyRange 256 comps.host = comps.host
  port : copyRange 16 comps.port = comps.port
  table : ∀ entries, parseQueryString system.malloc
    (copyRange 1024 comps.query) 32 = some entries →
      entries = queryParameters comps.query

/-- The user of a socket connection that names none. -/
def socketUser (system : Surroundings) (proto : UriProtocol) :
    Option (List UInt8) :=
  if proto = .onipcstr then system.pwName.map held else none

/-- The service of a connection: a socket path or a port, with nothing where
the other one would be. -/
def IsService (system : Surroundings) (comps : UriComponents)
    (proto : UriProtocol) (server service : List UInt8) : Prop :=
  if proto = .onipcstr then
    comps.port = [] ∧ service =
      (comps.value (octets "SOCKET_PATH")).getD (defaultSocket system server)
  else service = Percent.decode comps.port

/-- The settings are those of the URI and the explicit credentials. -/
structure Requested (system : Surroundings) (comps : UriComponents)
    (proto : UriProtocol) (username password : Option (List UInt8))
    (params : ConnectParams) : Prop where
  server : comps.value (octets "INFORMIXSERVER") = some params.server
  database : params.database =
    if Percent.decode comps.path = [] then octets "informix"
    else Percent.decode comps.path
  hostname : params.hostname = Percent.decode comps.host
  service : IsService system comps proto params.server params.service
  username : params.username =
    (chosen username comps.user).or (socketUser system proto)
  password : params.password = chosen password comps.pass
  clientLocale : params.clientLocale = comps.value (octets "CLIENT_LOCALE")
  dbLocale : params.dbLocale = comps.value (octets "DB_LOCALE")
  sslEnable : params.sslEnable = decide (proto = .onsocssl)
  sslVerifyPeer : params.sslVerifyPeer =
    ((comps.value (octets "SSL_VERIFY_PEER")).map affirmative).getD
      (decide (proto ≠ .onipcstr))
  sslCaFile : params.sslCaFile = comps.value (octets "SSL_CA_FILE")

/-- Either the function fails before it connects or nothing is altered. -/
def NeverAltered (system : Surroundings) (uri : List UInt8)
    (comps : UriComponents) (proto : UriProtocol)
    (username password : Option (List UInt8)) : Prop :=
  ∀ params, connectUri system (some uri) username password = .ok params →
    Whole system comps ∧
      Requested system comps proto username password params

/-! When that is so. -/

def Given (explicit : Option (List UInt8)) : Prop := explicit.getD [] ≠ []

/-- There is no connection. -/
def Refused (system : Surroundings) (comps : UriComponents)
    (proto : UriProtocol) : Prop :=
  ∀ entries, parseQueryString system.malloc (copyRange 1024 comps.query) 32 =
    some entries →
      findQueryValue entries (octets "INFORMIXSERVER") = none ∨
        proto ≠ .onipcstr ∧ (comps.host = [] ∨ comps.port = [])

structure UriComponents.Fits (comps : UriComponents) : Prop where
  path : comps.path.length < 256
  query : comps.query.length < 1024
  userinfo : comps.userinfo.length < 256
  host : comps.host.length < 256
  port : comps.port.length < 16
  parameters : QueryFits comps.query 32

structure HostVerbatim (comps : UriComponents)
    (password : Option (List UInt8)) : Prop where
  host : Percent.Unescaped comps.host
  port : Percent.Unescaped comps.port
  password : Given password ∨ 0 ∉ comps.pass

/-- A socket connection has no host, port, password or certificate, and the
texts that the system contributes fit their buffers. -/
structure SocketVerbatim (system : Surroundings) (comps : UriComponents)
    (username password : Option (List UInt8)) : Prop where
  host : comps.host = []
  port : comps.port = []
  password : ¬ Given password ∧ comps.pass = []
  caFile : comps.value (octets "SSL_CA_FILE") = none
  verifyPeer : ∀ text, comps.value (octets "SSL_VERIFY_PEER") = some text →
    affirmative text = false
  socket : comps.value (octets "SOCKET_PATH") = none → ∀ server,
    comps.value (octets "INFORMIXSERVER") = some server →
      (defaultSocket system server).length < 512
  user : ¬ Given username → comps.user = [] → ∀ name,
    system.pwName = some name → (held name).length < 256

structure Verbatim (system : Surroundings) (comps : UriComponents)
    (proto : UriProtocol) (username password : Option (List UInt8)) :
    Prop where
  path : Percent.Unescaped comps.path
  user : Given username ∨ 0 ∉ comps.user
  host : proto ≠ .onipcstr → HostVerbatim comps password
  socket : proto = .onipcstr →
    SocketVerbatim system comps username password

variable {system : Surroundings} {uri : List UInt8} {comps : UriComponents}
  {proto : UriProtocol} {username password : Option (List UInt8)}
  {entries : List UriQueryEntry} {server : List UInt8}

/-! What fits its buffers is there as a whole. -/

theorem whole_iff_fits
    (hentries : parseQueryString system.malloc (copyRange 1024 comps.query) 32 =
      some entries) : Whole system comps ↔ comps.Fits := by
  have hquery := @copyRange_eq_iff 1024 comps.query (by decide)
  have htable : copyRange 1024 comps.query = comps.query →
      (entries = queryParameters comps.query ↔ QueryFits comps.query 32) :=
    fun h => parseQueryString_whole_iff (h ▸ hentries)
  constructor
  · intro hwhole
    exact {
      path := (copyRange_eq_iff (by decide)).mp hwhole.path
      query := hquery.mp hwhole.query
      userinfo := (copyRange_eq_iff (by decide)).mp hwhole.userinfo
      host := (copyRange_eq_iff (by decide)).mp hwhole.host
      port := (copyRange_eq_iff (by decide)).mp hwhole.port
      parameters := (htable hwhole.query).mp (hwhole.table entries hentries) }
  · intro hfits
    exact {
      path := (copyRange_eq_iff (by decide)).mpr hfits.path
      query := hquery.mpr hfits.query
      userinfo := (copyRange_eq_iff (by decide)).mpr hfits.userinfo
      host := (copyRange_eq_iff (by decide)).mpr hfits.host
      port := (copyRange_eq_iff (by decide)).mpr hfits.port
      table := fun other hother => by
        rw [← Option.some.inj (hentries.symm.trans hother)]
        exact (htable (hquery.mpr hfits.query)).mpr hfits.parameters }

theorem decodedText_short {size : Nat} {text : List UInt8}
    (hshort : text.length < size) :
    decodedText size text = held (Percent.decode text) := by
  have hdecode := Percent.length_decode_le text
  rw [decodedText, List.take_of_length_le (by omega)]

theorem uriCredentials_eq (hfits : comps.userinfo.length < 256) :
    uriCredentials comps.userinfo = (held comps.user, held comps.pass) := by
  have hnone : held (Percent.decode []) = [] := by
    rw [Percent.decode]
    rfl
  rw [uriCredentials, UriComponents.user, UriComponents.pass, splitCredentials]
  by_cases hempty : comps.userinfo = []
  · rw [if_pos hempty, hempty]
    exact Prod.ext hnone.symm hnone.symm
  · rw [if_neg hempty]
    cases hcut : cut colon comps.userinfo with
    | none => exact Prod.ext (decodedText_short hfits) hnone.symm
    | some parts =>
        have hlength := congrArg List.length (append_of_cut hcut)
        rw [List.length_append, List.length_cons] at hlength
        exact Prod.ext (decodedText_short (by omega))
          (decodedText_short (by omega))

/-! When the settings are those that were asked for. -/

theorem decode_eq_nil_iff {text : List UInt8} :
    Percent.decode text = [] ↔ text = [] := by
  cases text with
  | nil => rw [Percent.decode]
  | cons byte rest =>
      rw [Percent.decode_cons]
      exact ⟨fun h => absurd h (List.cons_ne_nil _ _),
        fun h => absurd h (List.cons_ne_nil _ _)⟩

theorem eq_decode_iff {text : List UInt8} :
    text = Percent.decode text ↔ Percent.Unescaped text :=
  eq_comm.trans (Percent.decode_eq_self_iff text)

theorem database_iff {path : List UInt8} :
    (if path = [] then octets "informix" else path) =
        (if Percent.decode path = [] then octets "informix"
          else Percent.decode path) ↔ Percent.Unescaped path := by
  rw [← eq_decode_iff]
  by_cases hpath : path = []
  · rw [if_pos hpath, if_pos (decode_eq_nil_iff.mpr hpath), hpath]
    exact ⟨fun _ => (decode_eq_nil_iff.mpr rfl).symm, fun _ => rfl⟩
  · rw [if_neg hpath, if_neg (mt decode_eq_nil_iff.mp hpath)]

theorem chosen_given {explicit : Option (List UInt8)} (hgiven : Given explicit)
    (decoded : List UInt8) : chosen explicit decoded = explicit := by
  rw [chosen]
  exact if_pos hgiven

theorem chosen_nil {explicit : Option (List UInt8)}
    (hgiven : ¬ Given explicit) : chosen explicit [] = none := by
  rw [chosen]
  exact (if_neg hgiven).trans (if_neg fun h => h rfl)

theorem chosen_decoded {explicit : Option (List UInt8)} {decoded : List UInt8}
    (hgiven : ¬ Given explicit) (hdecoded : decoded ≠ []) :
    chosen explicit decoded = some decoded := by
  rw [chosen]
  exact (if_neg hgiven).trans (if_pos hdecoded)

theorem exists_of_given {explicit : Option (List UInt8)}
    (hgiven : Given explicit) : ∃ text, explicit = some text := by
  cases explicit with
  | none => exact absurd rfl hgiven
  | some text => exact ⟨text, rfl⟩

/-- What takes the place of a text with an end in it has none. -/
theorem chosen_held_ends {explicit cutOff : Option (List UInt8)}
    {decoded text : List UInt8} (hgiven : ¬ Given explicit)
    (hends : ∀ text, cutOff = some text → 0 ∉ text)
    (htext : (chosen explicit (held decoded)).or cutOff = some text) :
    0 ∉ text := by
  by_cases hheld : held decoded = []
  · rw [hheld, chosen_nil hgiven, Option.none_or] at htext
    exact hends text htext
  · rw [chosen_decoded hgiven hheld, Option.some_or] at htext
    exact Option.some.inj htext ▸ not_mem_held decoded

theorem chosen_held_iff {explicit cutOff whole : Option (List UInt8)}
    {decoded : List UInt8} (hends : ∀ text, cutOff = some text → 0 ∉ text) :
    (chosen explicit (held decoded)).or cutOff =
        (chosen explicit decoded).or whole ↔
      (Given explicit ∨ 0 ∉ decoded) ∧
        (¬ Given explicit → decoded = [] → cutOff = whole) := by
  by_cases hgiven : Given explicit
  · obtain ⟨text, rfl⟩ := exists_of_given hgiven
    rw [chosen_given hgiven, chosen_given hgiven, Option.some_or,
      Option.some_or]
    exact ⟨fun _ => ⟨Or.inl hgiven, fun h => absurd hgiven h⟩, fun _ => rfl⟩
  · by_cases hdecoded : decoded = []
    · rw [hdecoded]
      change (chosen explicit []).or cutOff = (chosen explicit []).or whole ↔ _
      rw [chosen_nil hgiven, Option.none_or, Option.none_or]
      exact ⟨fun h => ⟨Or.inr List.not_mem_nil, fun _ _ => h⟩,
        fun h => h.2 hgiven rfl⟩
    · rw [chosen_decoded hgiven hdecoded, Option.some_or]
      constructor
      · intro hsame
        exact ⟨Or.inr (chosen_held_ends hgiven hends hsame),
          fun _ h => absurd h hdecoded⟩
      · rintro ⟨hplain, _⟩
        rw [held_of_not_mem (hplain.resolve_left hgiven),
          chosen_decoded hgiven hdecoded, Option.some_or]

theorem chosen_held_alone_iff {explicit : Option (List UInt8)}
    {decoded : List UInt8} :
    chosen explicit (held decoded) = chosen explicit decoded ↔
      Given explicit ∨ 0 ∉ decoded := by
  have hiff := @chosen_held_iff explicit none none decoded
    (fun _ h => by cases h)
  rw [Option.or_none, Option.or_none] at hiff
  exact hiff.trans ⟨fun h => h.1, fun h => ⟨h, fun _ _ => rfl⟩⟩

theorem chosen_eq_none_iff {explicit : Option (List UInt8)}
    {decoded : List UInt8} :
    none = chosen explicit decoded ↔ ¬ Given explicit ∧ decoded = [] := by
  by_cases hgiven : Given explicit
  · obtain ⟨text, rfl⟩ := exists_of_given hgiven
    rw [chosen_given hgiven]
    exact ⟨fun h => (by cases h), fun h => absurd hgiven h.1⟩
  · by_cases hdecoded : decoded = []
    · rw [hdecoded, chosen_nil hgiven]
      exact ⟨fun _ => ⟨hgiven, rfl⟩, fun _ => rfl⟩
    · rw [chosen_decoded hgiven hdecoded]
      exact ⟨fun h => (by cases h), fun h => absurd h.2 hdecoded⟩

/-- The parameters that are filled in before the protocol is looked at. -/
structure Common (comps : UriComponents)
    (username password : Option (List UInt8)) (params : ConnectParams) :
    Prop where
  database : params.database =
      (if Percent.decode comps.path = [] then octets "informix"
        else Percent.decode comps.path) ↔ Percent.Unescaped comps.path
  username : params.username = chosen username (held comps.user)
  password : params.password = chosen password (held comps.pass)

theorem commonParams_common (hwhole : Whole system comps)
    (hfits : comps.Fits) : Common comps username password
      (commonParams comps entries server username password) where
  database := by
    rw [commonParams, hwhole.path]
    exact database_iff
  username := by
    rw [commonParams, hwhole.userinfo, uriCredentials_eq hfits.userinfo]
  password := by
    rw [commonParams, hwhole.userinfo, uriCredentials_eq hfits.userinfo]

theorem hostRequested_iff (hproto : proto ≠ .onipcstr)
    (hwhole : Whole system comps) (hfits : comps.Fits)
    (hserver : comps.value (octets "INFORMIXSERVER") = some server) :
    Requested system comps proto username password
        (hostParams proto (queryParameters comps.query)
          (copyRange 256 comps.host) (copyRange 16 comps.port)
          (commonParams comps (queryParameters comps.query) server username
            password)) ↔
      Verbatim system comps proto username password := by
  have hnone : socketUser system proto = none := if_neg hproto
  have hcommon : Common comps username password (commonParams comps
      (queryParameters comps.query) server username password) :=
    commonParams_common hwhole hfits
  rw [hwhole.host, hwhole.port]
  constructor
  · intro h
    have husername : chosen username (held comps.user) =
        chosen username comps.user := by
      have heq := hcommon.username.symm.trans h.username
      rwa [hnone, Option.or_none] at heq
    have hpassword : chosen password (held comps.pass) =
        chosen password comps.pass :=
      hcommon.password.symm.trans h.password
    have hservice : comps.port = Percent.decode comps.port := by
      have heq := h.service
      rw [IsService, if_neg hproto] at heq
      exact heq
    exact {
      path := hcommon.database.mp h.database
      user := chosen_held_alone_iff.mp husername
      host := fun _ => {
        host := eq_decode_iff.mp h.hostname
        port := eq_decode_iff.mp hservice
        password := chosen_held_alone_iff.mp hpassword }
      socket := fun h => absurd h hproto }
  · intro h
    have hhost := h.host hproto
    exact {
      server := hserver
      database := hcommon.database.mpr h.path
      hostname := eq_decode_iff.mpr hhost.host
      service := by
        rw [IsService, if_neg hproto]
        exact eq_decode_iff.mpr hhost.port
      username := by
        rw [hnone, Option.or_none]
        exact hcommon.username.trans (chosen_held_alone_iff.mpr h.user)
      password := hcommon.password.trans
        (chosen_held_alone_iff.mpr hhost.password)
      clientLocale := rfl
      dbLocale := rfl
      sslEnable := rfl
      sslVerifyPeer := by
        rw [decide_eq_true hproto]
        rfl
      sslCaFile := rfl }

theorem take_eq_iff {text : List UInt8} {count : Nat} :
    text.take count = text ↔ text.length < count + 1 := by
  rw [List.take_eq_self_iff, Nat.lt_succ_iff]

/-- The path of a socket is whole in its buffer, if it is not a parameter. -/
theorem socketPath_iff {path : Option (List UInt8)} {socket : List UInt8} :
    path.getD (socket.take 511) = path.getD socket ↔
      (path = none → socket.length < 512) := by
  cases path with
  | none => exact take_eq_iff.trans ⟨fun h _ => h, fun h => h rfl⟩
  | some path => exact ⟨fun _ h => (by cases h), fun _ => rfl⟩

theorem pwName_iff {pwName : Option (List UInt8)} :
    (pwName.map fun name => (held name).take 255) = pwName.map held ↔
      ∀ name, pwName = some name → (held name).length < 256 := by
  cases pwName with
  | none => exact ⟨fun _ _ h => (by cases h), fun _ => rfl⟩
  | some name =>
      rw [Option.map_some, Option.map_some, Option.some.injEq, take_eq_iff]
      exact ⟨fun h other hother => Option.some.inj hother ▸ h,
        fun h => h name rfl⟩

theorem pwName_ends {pwName : Option (List UInt8)} {text : List UInt8}
    (htext : (pwName.map fun name => (held name).take 255) = some text) :
    0 ∉ text := by
  obtain ⟨name, _, rfl⟩ := Option.map_eq_some_iff.mp htext
  exact fun hmem => not_mem_held name (List.mem_of_mem_take hmem)

theorem not_affirmative_iff {sslVerify : Option (List UInt8)} :
    false = (sslVerify.map affirmative).getD false ↔
      ∀ text, sslVerify = some text → affirmative text = false := by
  cases sslVerify with
  | none => exact ⟨fun _ _ h => (by cases h), fun _ => rfl⟩
  | some text =>
      exact ⟨fun h other hother => Option.some.inj hother ▸ h.symm,
        fun h => (h text rfl).symm⟩

theorem socketRequested_iff (hwhole : Whole system comps) (hfits : comps.Fits)
    (hserver : comps.value (octets "INFORMIXSERVER") = some server) :
    Requested system comps .onipcstr username password
        (socketParams system (queryParameters comps.query)
          (commonParams comps (queryParameters comps.query) server username
            password)) ↔
      Verbatim system comps .onipcstr username password := by
  have hcommon : Common comps username password (commonParams comps
      (queryParameters comps.query) server username password) :=
    commonParams_common hwhole hfits
  have husername := @chosen_held_iff username
    (system.pwName.map fun name => (held name).take 255)
    (system.pwName.map held) comps.user (fun _ => pwName_ends)
  constructor
  · intro h
    obtain ⟨hport, hservice⟩ := h.service
    have hsocket : comps.value (octets "SOCKET_PATH") = none →
        (defaultSocket system server).length < 512 :=
      socketPath_iff.mp hservice
    have huser := h.username
    change (commonParams comps (queryParameters comps.query) server
      username password).username.or _ = _ at huser
    rw [hcommon.username] at huser
    obtain ⟨hplain, hname⟩ := husername.mp huser
    exact {
      path := hcommon.database.mp h.database
      user := hplain
      host := fun hproto => absurd rfl hproto
      socket := fun _ => {
        host := decode_eq_nil_iff.mp h.hostname.symm
        port := hport
        password := chosen_eq_none_iff.mp h.password
        caFile := h.sslCaFile.symm
        verifyPeer := not_affirmative_iff.mp h.sslVerifyPeer
        socket := fun hpath other hother =>
          Option.some.inj (hserver.symm.trans hother) ▸ hsocket hpath
        user := fun hgiven hnone => pwName_iff.mp (hname hgiven hnone) } }
  · intro h
    have hsocket := h.socket rfl
    exact {
      server := hserver
      database := hcommon.database.mpr h.path
      hostname := (decode_eq_nil_iff.mpr hsocket.host).symm
      service := ⟨hsocket.port, socketPath_iff.mpr fun hpath =>
        hsocket.socket hpath server hserver⟩
      username := by
        change (commonParams comps (queryParameters comps.query) server
          username password).username.or _ = _
        rw [hcommon.username]
        exact husername.mpr ⟨h.user, fun hgiven hnone =>
          pwName_iff.mpr (hsocket.user hgiven hnone)⟩
      password := chosen_eq_none_iff.mpr hsocket.password
      clientLocale := rfl
      dbLocale := rfl
      sslEnable := rfl
      sslVerifyPeer := not_affirmative_iff.mpr hsocket.verifyPeer
      sslCaFile := hsocket.caFile.symm }

theorem requested_iff (hwhole : Whole system comps) (hfits : comps.Fits)
    (hserver : comps.value (octets "INFORMIXSERVER") = some server) :
    Requested system comps proto username password
        (protocolParams system comps proto (queryParameters comps.query)
          (commonParams comps (queryParameters comps.query) server username
            password)) ↔
      Verbatim system comps proto username password := by
  by_cases hproto : proto = .onipcstr
  · subst hproto
    exact socketRequested_iff hwhole hfits hserver
  · rw [protocolParams, if_neg hproto]
    exact hostRequested_iff hproto hwhole hfits hserver

/-- A connection that is not refused has parameters. -/
theorem exists_of_not_refused (hrefused : ¬ Refused system comps proto) :
    ∃ entries, parseQueryString system.malloc
        (copyRange 1024 comps.query) 32 = some entries ∧
      ∃ server, findQueryValue entries (octets "INFORMIXSERVER") =
          some server ∧
        (proto ≠ .onipcstr → comps.host ≠ [] ∧ comps.port ≠ []) := by
  by_contra hnone
  refine hrefused fun entries hentries => ?_
  cases hserver : findQueryValue entries (octets "INFORMIXSERVER") with
  | none => exact Or.inl rfl
  | some server =>
      refine Or.inr ?_
      by_contra hmissing
      refine hnone ⟨entries, hentries, server, hserver, fun hproto => ?_⟩
      exact not_or.mp fun h => hmissing ⟨hproto, h⟩

theorem neverAltered_iff (system : Surroundings)
    (username password : Option (List UInt8))
    (hparse : parseUriComponents (some uri) = some comps)
    (hproto : detectProtocol comps.scheme = some proto) :
    NeverAltered system uri comps proto username password ↔
      Refused system comps proto ∨
        comps.Fits ∧ Verbatim system comps proto username password := by
  rw [NeverAltered, connectUri_supported hparse hproto]
  by_cases hrefused : Refused system comps proto
  · refine ⟨fun _ => Or.inl hrefused, fun _ params hok => ?_⟩
    obtain ⟨entries, hentries, server, hserver, hhost, _⟩ :=
      connectComponents_ok_iff.mp hok
    rcases hrefused entries hentries with hnone | ⟨hhosted, hmissing⟩
    · exact absurd (hnone.symm.trans hserver) (by rintro ⟨⟩)
    · obtain ⟨hname, hport⟩ := hhost hhosted
      exact (hmissing.elim hname hport).elim
  · obtain ⟨entries, hentries, server, hserver, hhost⟩ :=
      exists_of_not_refused hrefused
    have hok := connectComponents_ok_iff.mpr
      ⟨entries, hentries, server, hserver, hhost,
        @rfl _ (protocolParams system comps proto entries
          (commonParams comps entries server username password))⟩
    constructor
    · intro hnever
      obtain ⟨hwhole, hrequested⟩ := hnever _ hok
      have hfits := (whole_iff_fits hentries).mp hwhole
      obtain rfl := hwhole.table entries hentries
      exact Or.inr ⟨hfits, (requested_iff hwhole hfits hserver).mp hrequested⟩
    · rintro (h | ⟨hfits, hverbatim⟩) params hparams
      · exact absurd h hrefused
      · have hwhole := (whole_iff_fits hentries).mpr hfits
        obtain rfl := hwhole.table entries hentries
        rw [← Except.ok.inj (hok.symm.trans hparams)]
        exact ⟨hwhole, (requested_iff hwhole hfits hserver).mpr hverbatim⟩

/-! A database name with an escape. -/

def escapedUri : List UInt8 :=
  octets "informix+onsoctcp://h:1/a%20b?INFORMIXSERVER=s"

def escapedComponents : UriComponents where
  scheme := octets "informix+onsoctcp"
  userinfo := []
  host := octets "h"
  port := octets "1"
  path := octets "a%20b"
  query := octets "INFORMIXSERVER=s"

theorem escaped_accepted :
    parseUriComponents (some escapedUri) = some escapedComponents ∧
      detectProtocol escapedComponents.scheme = some .onsoctcp := by
  decide

def quietSystem : Surroundings where
  malloc := true
  informixtmp := none
  informixtmpDir := false
  pwName := none

/-- An encoder that quotes the two bytes it has to. -/
def quotedBytes : Percent.Encoding where
  keeps := fun byte => byte != Percent.percent && byte != plus
  upper := true
  escapes_percent := rfl
  escapes_plus := rfl

theorem neverAltered_iff_escaped :
    NeverAltered quietSystem escapedUri escapedComponents .onsoctcp none none ↔
      Refused quietSystem escapedComponents .onsoctcp ∨
        escapedComponents.Fits ∧
          Verbatim quietSystem escapedComponents .onsoctcp none none :=
  neverAltered_iff quietSystem none none escaped_accepted.1 escaped_accepted.2

theorem decodedText_octets (size : Nat) (text : List UInt8)
    (hplain : quotedBytes.encode text = text) :
    decodedText size text = held (text.take (size - 1)) := by
  rw [decodedText]
  nth_rewrite 1 [← hplain]
  rw [quotedBytes.decode_encode]

/-- The name of the database is passed on as it is written in the URI. -/
theorem escapedUri_altered :
    parseUriComponents (some escapedUri) = some escapedComponents ∧
      detectProtocol escapedComponents.scheme = some .onsoctcp ∧
      ¬ NeverAltered quietSystem escapedUri escapedComponents .onsoctcp
        none none := by
  refine ⟨escaped_accepted.1, escaped_accepted.2, fun hnever => ?_⟩
  have hkey : decodedText 128 (octets "INFORMIXSERVER") =
      octets "INFORMIXSERVER" :=
    (decodedText_octets _ _ (by decide)).trans (by decide)
  have hvalue : decodedText 256 (octets "s") = octets "s" :=
    (decodedText_octets _ _ (by decide)).trans (by decide)
  have hentry : queryEntry (octets "INFORMIXSERVER=s") =
      ⟨octets "INFORMIXSERVER", octets "s"⟩ := by
    have hcut : cut equalsSign (octets "INFORMIXSERVER=s") =
        some (octets "INFORMIXSERVER", octets "s") := by
      decide
    rw [queryEntry, hcut]
    exact congrArg₂ UriQueryEntry.mk hkey hvalue
  have hentries : parseQueryString quietSystem.malloc
      (copyRange 1024 escapedComponents.query) 32 =
        some [⟨octets "INFORMIXSERVER", octets "s"⟩] := by
    have htokens : queryTokens (octets "INFORMIXSERVER=s") =
        [octets "INFORMIXSERVER=s"] := by
      decide
    change some ((List.take 32 (queryTokens (octets "INFORMIXSERVER=s"))).map
      queryEntry) = _
    rw [htokens, ← hentry]
    rfl
  have hok := connectComponents_ok_iff.mpr
    ⟨_, hentries, octets "s", by decide, fun _ => by decide,
      @rfl _ (protocolParams quietSystem escapedComponents .onsoctcp
        [⟨octets "INFORMIXSERVER", octets "s"⟩]
        (commonParams escapedComponents
          [⟨octets "INFORMIXSERVER", octets "s"⟩] (octets "s") none none))⟩
  rw [← connectUri_supported escaped_accepted.1 escaped_accepted.2] at hok
  have hdatabase := (hnever _ hok).2.database
  have hplain : Percent.Unescaped (octets "a%20b") := database_iff.mp hdatabase
  exact hplain.escape 50 48 (by decide) (by decide) (by decide)

end Libsqli.Uri
