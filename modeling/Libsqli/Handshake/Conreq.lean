import Libsqli.Data.Bytes
import Libsqli.Data.Ctype
import Libsqli.Data.Filling
import Libsqli.Handshake.Object

namespace Libsqli.Handshake

open Libsqli.Data.Bytes
open Libsqli.Data.Ctype (octets)
open Libsqli.Data.Filling

/-! The connection request over TCP. -/

/-- What the process asks the system for; `none` where the call fails. -/
structure Host where
  pid : UInt32
  hostname : Option (Text 256)
  cwd : Option (Text 511)

def Host.hostnameOut (host : Host) : List UInt8 :=
  (host.hostname.map Subtype.val).getD (octets "localhost")

def Host.cwdOut (host : Host) : List UInt8 :=
  (host.cwd.map Subtype.val).getD (octets ".")

def w16 (value : Nat) : Filler Unit := store (bigEndian 2 value)
def w32 (value : Nat) : Filler Unit := store (bigEndian 4 value)

/-- `wstr` stops at 256 octets. -/
def wstr (text : List UInt8) : Filler Unit := store (text.take 256)

/-- A length, the text and its NUL. -/
def field (text : List UInt8) : Filler Unit := do
  w16 (text.length + 1)
  wstr text
  store [0]

/-- A name in eight octets. -/
def eightOctets (name : List UInt8) : List UInt8 :=
  (name.take 7 ++ List.replicate 8 0).take 8

def opening : Filler Unit := do
  w16 100
  w16 101
  w32 61
  field (octets "IEEEM")
  w16 108
  store (octets "sqlexec" ++ List.replicate 5 0)
  field (octets "9.280")
  field (octets "RDS#R000000")
  field (octets "sqli")
  w32 316
  w32 0
  w32 0
  w16 1

def transportBlock (transport : Option (List UInt8)) : Filler Unit := do
  store (eightOctets (octets "ol"))
  w32 61
  store (eightOctets (transport.getD (octets "tlitcp")))
  w32 1
  w16 104
  w16 11
  w32 3

/-- The default of a locale that is not set. -/
def locale (default : String) (text : List UInt8) : List UInt8 :=
  if text = [] then octets default else text

def envPairs (strings : Strings) : List (List UInt8 × List UInt8) :=
  [(octets "DBPATH", octets "."),
    (octets "CLIENT_LOCALE", locale "en_US.utf8" (strings .clientLocale).val),
    (octets "CLNT_PAM_CAPABLE", octets "1"),
    (octets "IFX_UPDDESC", octets "1"),
    (octets "DB_LOCALE", locale "en_US.8859-1" (strings .dbLocale).val),
    (octets "NODEFDAC", octets "no")]

/-- A pair for which there is no room is left out. -/
def addEnv (count : Nat) (pair : List UInt8 × List UInt8) : Filler Nat :=
  fun buffer =>
    if buffer.octets.length + 2 + pair.1.length + 1 + 2 + pair.2.length + 1 <
        buffer.size then
      (do
        field pair.1
        field pair.2
        return count + 1 : Filler Nat) buffer
    else .ok count buffer

def environment (pairs : List (List UInt8 × List UInt8)) : Filler Unit := do
  w16 106
  let start ← position
  w16 0
  let count ← pairs.foldlM addEnv 0
  patch start (bigEndian 2 count)

def hostBlock (host : Host) : Filler Unit := do
  w16 107
  w32 0
  w32 host.pid.toNat
  w32 0
  field host.hostnameOut
  w16 0
  field host.cwdOut

def appBlock : Filler Unit := do
  let name := octets "libsqli"
  w16 116
  w16 (10 + name.length + 1)
  w32 0
  w32 0
  field name
  w16 127

def conreqHead (strings : Strings) (transport : Option (List UInt8)) :
    Filler Unit := do
  opening
  field (strings .username).val
  field (strings .password).val
  transportBlock transport
  field (strings .server).val
  w16 0
  w16 0
  w16 0
  w16 0
  w16 0

def conreq (strings : Strings) (host : Host)
    (transport : Option (List UInt8)) : Filler Unit := do
  conreqHead strings transport
  environment (envPairs strings)
  hostBlock host
  appBlock

/-- `sqli_asc_encode_conreq`; giving up is a length of zero. -/
def encodeConreq (strings : Strings) (host : Host)
    (transport : Option (List UInt8)) (size : Nat) :
    EStateM.Result Stop Buffer Unit :=
  if size < 64 then .error .refused ⟨size, []⟩
  else conreq strings host transport ⟨size, []⟩

/-! What is stored. -/

def textBytes (text : List UInt8) : List UInt8 :=
  bigEndian 2 (text.length + 1) ++ (text ++ [0])

def openingBytes : List UInt8 :=
  bigEndian 2 100 ++ (bigEndian 2 101 ++ (bigEndian 4 61 ++
    (textBytes (octets "IEEEM") ++ (bigEndian 2 108 ++
      ((octets "sqlexec" ++ List.replicate 5 0) ++ (textBytes (octets "9.280") ++
        (textBytes (octets "RDS#R000000") ++ (textBytes (octets "sqli") ++
          (bigEndian 4 316 ++ (bigEndian 4 0 ++ (bigEndian 4 0 ++
            bigEndian 2 1)))))))))))

def protocolBytes : List UInt8 := eightOctets (octets "ol") ++ bigEndian 4 61

def levelBytes : List UInt8 :=
  bigEndian 4 1 ++ (bigEndian 2 104 ++ (bigEndian 2 11 ++ bigEndian 4 3))

def appBytes : List UInt8 :=
  bigEndian 2 116 ++ (bigEndian 2 18 ++ (bigEndian 4 0 ++ (bigEndian 4 0 ++
    (textBytes (octets "libsqli") ++ bigEndian 2 127))))

variable {text bytes : List UInt8} {pairs : List (List UInt8 × List UInt8)}
  {buffer : Buffer} {strings : Strings} {host : Host}
  {transport : Option (List UInt8)}

/-- The length may promise more octets than are stored. -/
def fieldBytes (text : List UInt8) : List UInt8 :=
  bigEndian 2 (text.length + 1) ++ (text.take 256 ++ [0])

theorem fieldBytes_eq (htext : text.length ≤ 256) :
    fieldBytes text = textBytes text := by
  rw [fieldBytes, List.take_of_length_le htext, textBytes]

theorem emits_field (text : List UInt8) : Emits (field text) (fieldBytes text) () :=
  (Emits.store _).bind ((Emits.store _).bind (Emits.store _))

theorem emits_text (htext : text.length ≤ 256) :
    Emits (field text) (textBytes text) () := by
  rw [← fieldBytes_eq htext]
  exact emits_field text

theorem emits_opening : Emits opening openingBytes () := by
  have hstore (value : List UInt8) := Emits.store value
  refine (hstore _).bind <| (hstore _).bind <| (hstore _).bind ?_
  refine (emits_text (by decide)).bind <| (hstore _).bind <| (hstore _).bind ?_
  refine (emits_text (by decide)).bind <| (emits_text (by decide)).bind ?_
  refine (emits_text (by decide)).bind <| (hstore _).bind ?_
  exact (hstore _).bind <| (hstore _).bind (hstore _)

theorem emits_transportBlock (transport : Option (List UInt8)) :
    Emits (transportBlock transport)
      (protocolBytes ++ (eightOctets (transport.getD (octets "tlitcp")) ++
        levelBytes)) () := by
  have hstore (value : List UInt8) := Emits.store value
  rw [protocolBytes, List.append_assoc]
  exact (hstore _).bind <| (hstore _).bind <| (hstore _).bind <|
    (hstore _).bind <| (hstore _).bind <| (hstore _).bind (hstore _)

theorem length_string (slot : Slot) (hslot : slot ≠ .service) :
    (strings slot).val.length ≤ 255 := by
  have hlength := (strings slot).property
  cases slot <;> first | exact absurd rfl hslot | exact Nat.le_of_lt_succ hlength

def headBytes (strings : Strings) (transport : Option (List UInt8)) :
    List UInt8 :=
  openingBytes ++ (textBytes (strings .username).val ++
    (textBytes (strings .password).val ++
      ((protocolBytes ++ (eightOctets (transport.getD (octets "tlitcp")) ++
        levelBytes)) ++ (textBytes (strings .server).val ++
          List.replicate 10 0))))

theorem emits_conreqHead (strings : Strings)
    (transport : Option (List UInt8)) :
    Emits (conreqHead strings transport) (headBytes strings transport) () := by
  have hslot (slot : Slot) (hslot : slot ≠ .service) :
      Emits (field (strings slot).val) (textBytes (strings slot).val) () :=
    emits_text ((length_string slot hslot).trans (by decide))
  have hzeros : Emits (do w16 0; w16 0; w16 0; w16 0; w16 0)
      (List.replicate 10 0) () :=
    (Emits.store _).bind <| (Emits.store _).bind <| (Emits.store _).bind <|
      (Emits.store _).bind (Emits.store _)
  exact emits_opening.bind <| (hslot .username nofun).bind <|
    (hslot .password nofun).bind <| (emits_transportBlock transport).bind <|
    (hslot .server nofun).bind hzeros

def pairBytes (pair : List UInt8 × List UInt8) : List UInt8 :=
  textBytes pair.1 ++ textBytes pair.2

/-- `wstr` stores all of a name and a value. -/
def ShortPair (pair : List UInt8 × List UInt8) : Prop :=
  pair.1.length ≤ 256 ∧ pair.2.length ≤ 256

theorem length_textBytes (text : List UInt8) :
    (textBytes text).length = text.length + 3 := by
  simp [textBytes]
  omega

theorem addEnv_room {pair : List UInt8 × List UInt8} {count : Nat}
    (hpair : ShortPair pair)
    (hroom : buffer.octets.length + (pairBytes pair).length < buffer.size) :
    addEnv count pair buffer = .ok (count + 1) (buffer.append (pairBytes pair)) := by
  have hemits : Emits (do
      field pair.1
      field pair.2
      return count + 1) (pairBytes pair ++ []) (count + 1) := by
    rw [pairBytes, List.append_assoc]
    exact (emits_text hpair.1).bind ((emits_text hpair.2).bind (Emits.pure _))
  rw [List.append_nil] at hemits
  rw [addEnv, if_pos, hemits.fits hroom.le]
  simp only [pairBytes, List.length_append, length_textBytes] at hroom
  omega

theorem foldlM_addEnv {count : Nat} (hpairs : ∀ pair ∈ pairs, ShortPair pair)
    (hroom : buffer.octets.length + (pairs.flatMap pairBytes).length <
      buffer.size) :
    pairs.foldlM addEnv count buffer =
      .ok (count + pairs.length) (buffer.append (pairs.flatMap pairBytes)) := by
  induction pairs generalizing count buffer with
  | nil => simp [Buffer.append]
  | cons pair pairs ih =>
      obtain ⟨hpair, hrest⟩ := List.forall_mem_cons.mp hpairs
      rw [List.flatMap_cons, List.length_append] at hroom
      rw [List.foldlM_cons, Data.Program.bind_apply,
        addEnv_room hpair (by omega)]
      dsimp only
      have hmore : (buffer.append (pairBytes pair)).octets.length +
          (pairs.flatMap pairBytes).length < buffer.size := by
        rw [Buffer.append_octets, List.length_append]
        omega
      rw [ih hrest hmore, Buffer.append_append, List.flatMap_cons,
        List.length_cons, Nat.add_assoc, Nat.add_comm 1]

def envBytes (pairs : List (List UInt8 × List UInt8)) : List UInt8 :=
  bigEndian 2 106 ++ (bigEndian 2 pairs.length ++ pairs.flatMap pairBytes)

theorem environment_room (hpairs : ∀ pair ∈ pairs, ShortPair pair)
    (hroom : buffer.octets.length + (envBytes pairs).length < buffer.size) :
    environment pairs buffer = .ok () (buffer.append (envBytes pairs)) := by
  simp only [envBytes, List.length_append, length_bigEndian] at hroom
  have hlengths (front : List UInt8) : (buffer.append front).octets.length =
      buffer.octets.length + front.length := List.length_append
  have htag : w16 106 buffer = .ok () (buffer.append (bigEndian 2 106)) :=
    (Emits.store _).fits (by rw [length_bigEndian]; omega)
  have hcount : w16 0 (buffer.append (bigEndian 2 106)) =
      .ok () ((buffer.append (bigEndian 2 106)).append (bigEndian 2 0)) :=
    (Emits.store _).fits (by simp; omega)
  have hfold := @foldlM_addEnv pairs
    ((buffer.append (bigEndian 2 106)).append (bigEndian 2 0)) 0 hpairs (by
      rw [Buffer.append_append, hlengths, List.length_append, length_bigEndian,
        length_bigEndian, Buffer.append_size]
      omega)
  have hpatch := @patch_apply (bigEndian 2 pairs.length)
    (buffer.octets ++ bigEndian 2 106) (pairs.flatMap pairBytes)
    (((buffer.append (bigEndian 2 106)).append (bigEndian 2 0)).append
      (pairs.flatMap pairBytes)) (bigEndian 2 0) (by simp) (by simp) (by
      rw [Buffer.append_append, Buffer.append_append, hlengths]
      simp only [List.length_append, length_bigEndian, Buffer.append_size]
      omega)
  unfold environment
  rw [Data.Program.bind_apply, htag]
  dsimp only
  rw [Data.Program.bind_apply, position]
  dsimp only
  rw [Data.Program.bind_apply, hcount]
  dsimp only
  rw [Data.Program.bind_apply, hfold]
  dsimp only
  rw [Nat.zero_add, Buffer.append_octets, hpatch]
  simp [Buffer.append, envBytes]

def hostBytes (host : Host) : List UInt8 :=
  (bigEndian 2 107 ++ bigEndian 4 0) ++ (bigEndian 4 host.pid.toNat ++
    (bigEndian 4 0 ++ (textBytes host.hostnameOut ++ [0, 0])))

theorem length_hostnameOut (host : Host) : host.hostnameOut.length ≤ 255 := by
  unfold Host.hostnameOut
  cases host.hostname with
  | none => decide
  | some hostname => exact Nat.le_of_lt_succ hostname.property

theorem length_cwdOut (host : Host) : host.cwdOut.length ≤ 510 := by
  unfold Host.cwdOut
  cases host.cwd with
  | none => decide
  | some cwd => exact Nat.le_of_lt_succ cwd.property

theorem emits_hostBlock (host : Host) :
    Emits (hostBlock host) (hostBytes host ++ fieldBytes host.cwdOut) () := by
  have hname := @emits_text host.hostnameOut
    ((length_hostnameOut host).trans (by decide))
  rw [hostBytes, List.append_assoc, List.append_assoc, List.append_assoc,
    List.append_assoc, List.append_assoc]
  exact (Emits.store _).bind <| (Emits.store _).bind <| (Emits.store _).bind <|
    (Emits.store _).bind <| hname.bind <| (Emits.store _).bind (emits_field _)

theorem emits_appBlock : Emits appBlock appBytes () :=
  (Emits.store _).bind <| (Emits.store _).bind <| (Emits.store _).bind <|
    (Emits.store _).bind <| (emits_text (by decide)).bind (Emits.store _)

theorem length_locale {default : String} (htext : text.length ≤ 255)
    (hdefault : (octets default).length ≤ 255) :
    (locale default text).length ≤ 255 := by
  unfold locale
  split
  · exact hdefault
  · exact htext

theorem envPairs_short (strings : Strings) :
    ∀ pair ∈ envPairs strings, ShortPair pair := by
  have hclient : (locale "en_US.utf8" (strings .clientLocale).val).length ≤
      255 := length_locale (length_string .clientLocale nofun) (by decide)
  have hdb : (locale "en_US.8859-1" (strings .dbLocale).val).length ≤ 255 :=
    length_locale (length_string .dbLocale nofun) (by decide)
  simp only [envPairs, List.forall_mem_cons, ShortPair]
  refine ⟨by decide, ⟨by decide, by omega⟩, by decide, by decide,
    ⟨by decide, by omega⟩, by decide, by simp⟩

/-! How long the request is. -/

/-- With every string in full. -/
def conreqLength (strings : Strings) (host : Host) : Nat :=
  278 + (strings .username).val.length + (strings .password).val.length +
    (strings .server).val.length +
    (locale "en_US.utf8" (strings .clientLocale).val).length +
    (locale "en_US.8859-1" (strings .dbLocale).val).length +
    host.hostnameOut.length + host.cwdOut.length

theorem length_eightOctets (name : List UInt8) :
    (eightOctets name).length = 8 := by
  simp [eightOctets]

theorem length_headBytes (strings : Strings)
    (transport : Option (List UInt8)) :
    (headBytes strings transport).length =
      124 + (strings .username).val.length + (strings .password).val.length +
        (strings .server).val.length := by
  have hopening : openingBytes.length = 73 := by decide
  have hprotocol : protocolBytes.length = 12 := by decide
  have hlevel : levelBytes.length = 12 := by decide
  simp only [headBytes, List.length_append, length_textBytes,
    length_eightOctets, List.length_replicate, hopening, hprotocol, hlevel]
  omega

theorem length_envBytes (strings : Strings) :
    (envBytes (envPairs strings)).length =
      108 + (locale "en_US.utf8" (strings .clientLocale).val).length +
        (locale "en_US.8859-1" (strings .dbLocale).val).length := by
  have hnames : (octets "DBPATH").length = 6 ∧
      (octets "CLIENT_LOCALE").length = 13 ∧
      (octets "CLNT_PAM_CAPABLE").length = 16 ∧
      (octets "IFX_UPDDESC").length = 11 ∧ (octets "DB_LOCALE").length = 9 ∧
      (octets "NODEFDAC").length = 8 := by decide
  have hvalues : (octets ".").length = 1 ∧ (octets "1").length = 1 ∧
      (octets "no").length = 2 := by decide
  obtain ⟨h1, h2, h3, h4, h5, h6⟩ := hnames
  obtain ⟨h7, h8, h9⟩ := hvalues
  simp only [envBytes, envPairs, pairBytes, List.flatMap_cons,
    List.flatMap_nil, List.length_append, length_bigEndian, length_textBytes,
    List.length_nil, h1, h2, h3, h4, h5, h6, h7, h8, h9]
  omega

/-- The octets behind the environment. -/
def tailBytes (host : Host) : List UInt8 :=
  (hostBytes host ++ fieldBytes host.cwdOut) ++ appBytes

theorem length_hostBytes (host : Host) :
    (hostBytes host).length = 19 + host.hostnameOut.length := by
  simp only [hostBytes, List.length_append, length_bigEndian,
    length_textBytes, List.length_cons, List.length_nil]
  omega

theorem length_appBytes : appBytes.length = 24 := by decide

theorem length_tailBytes (host : Host) :
    (tailBytes host).length =
      46 + host.hostnameOut.length + min 256 host.cwdOut.length := by
  simp only [tailBytes, List.length_append, length_hostBytes, length_appBytes,
    fieldBytes, length_bigEndian, List.length_take, List.length_cons,
    List.length_nil]
  omega

theorem emits_tail (host : Host) :
    Emits (do hostBlock host; appBlock) (tailBytes host) () :=
  (emits_hostBlock host).bind emits_appBlock

/-- Everything up to the working directory has its place. -/
theorem encodeConreq_eq (strings : Strings) (host : Host)
    (transport : Option (List UInt8)) :
    encodeConreq strings host transport 2048 =
      (do hostBlock host; appBlock : Filler Unit) ⟨2048,
        headBytes strings transport ++ envBytes (envPairs strings)⟩ := by
  have husername := @length_string strings .username nofun
  have hpassword := @length_string strings .password nofun
  have hserver := @length_string strings .server nofun
  have hclient : (locale "en_US.utf8" (strings .clientLocale).val).length ≤
      255 := length_locale (length_string .clientLocale nofun) (by decide)
  have hdb : (locale "en_US.8859-1" (strings .dbLocale).val).length ≤ 255 :=
    length_locale (length_string .dbLocale nofun) (by decide)
  have hhead := length_headBytes strings transport
  have henv := length_envBytes strings
  have hfirst : conreqHead strings transport ⟨2048, []⟩ =
      .ok () ((⟨2048, []⟩ : Buffer).append (headBytes strings transport)) :=
    (emits_conreqHead strings transport).fits (by simp; omega)
  have hsecond := @environment_room (envPairs strings)
    ((⟨2048, []⟩ : Buffer).append (headBytes strings transport))
    (envPairs_short strings) (by simp; omega)
  rw [encodeConreq, if_neg (by decide), conreq, Data.Program.bind_apply, hfirst]
  dsimp only
  rw [Data.Program.bind_apply, hsecond]
  simp [Buffer.append]

end Libsqli.Handshake
