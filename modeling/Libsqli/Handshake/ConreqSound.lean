import Libsqli.Handshake.Conreq

namespace Libsqli.Handshake

open Libsqli.Data.Bytes
open Libsqli.Data.Ctype (octets)
open Libsqli.Data.Filling

variable {text : List UInt8} {pairs : List (List UInt8 × List UInt8)}
  {strings : Strings} {host : Host} {transport : Option (List UInt8)}

/-! The layout of the request. -/

structure Conreq where
  username : List UInt8
  password : List UInt8
  transport : List UInt8
  server : List UInt8
  environment : List (List UInt8 × List UInt8)
  pid : Nat
  hostname : List UInt8
  cwd : List UInt8

/-- What the strings and the process say. -/
def conreqOf (strings : Strings) (host : Host)
    (transport : Option (List UInt8)) : Conreq where
  username := (strings .username).val
  password := (strings .password).val
  transport := eightOctets (transport.getD (octets "tlitcp"))
  server := (strings .server).val
  environment := envPairs strings
  pid := host.pid.toNat
  hostname := host.hostnameOut
  cwd := host.cwdOut

/-- The length counts the NUL. -/
def readText : Reader (List UInt8) := do
  let length ← natural 2
  if length = 0 then failure
  else do
    let text ← take (length - 1)
    expect [0]
    return text

def readPair : Reader (List UInt8 × List UInt8) := do
  let name ← readText
  let value ← readText
  return (name, value)

/-- Up to the working directory. -/
def readFront : Reader Conreq := do
  expect openingBytes
  let username ← readText
  let password ← readText
  expect protocolBytes
  let transport ← take 8
  expect levelBytes
  let server ← readText
  expect (List.replicate 10 0)
  expect (bigEndian 2 106)
  let count ← natural 2
  let environment ← readAll (List.replicate count readPair)
  expect (bigEndian 2 107 ++ bigEndian 4 0)
  let pid ← natural 4
  expect (bigEndian 4 0)
  let hostname ← readText
  expect [0, 0]
  return ⟨username, password, transport, server, environment, pid, hostname, []⟩

def readTail (front : Conreq) : Reader Conreq := do
  let cwd ← readText
  expect appBytes
  return { front with cwd := cwd }

def readConreq : Reader Conreq := do
  let front ← readFront
  readTail front

/-- In the buffer of `sqli_connect` the encoder stays inside; it gives up, or what it
has stored reads as the strings, to the last octet. -/
def ConreqSound (strings : Strings) (host : Host)
    (transport : Option (List UInt8)) : Prop :=
  match encodeConreq strings host transport 2048 with
  | .ok _ buffer =>
      buffer.octets.length ≤ 2048 ∧
        readConreq buffer.octets = some (conreqOf strings host transport, [])
  | .error .refused _ => True
  | .error .overrun _ => False

/-! The request as it is read. -/

theorem reads_text (htext : text.length + 1 < 256 ^ 2) :
    Reads readText (textBytes text) text := by
  refine (Reads.natural htext).bind ?_
  rw [if_neg (Nat.succ_ne_zero _), Nat.add_sub_cancel]
  have hend : Reads (do expect [0]; return text) ([0] ++ []) text :=
    (Reads.expect [0]).bind (Reads.pure text)
  exact (Reads.take rfl).bind hend

theorem reads_pair {pair : List UInt8 × List UInt8} (hpair : ShortPair pair) :
    Reads readPair (pairBytes pair) pair := by
  have hname := Nat.lt_of_le_of_lt hpair.1 (show 256 < 256 ^ 2 - 1 by decide)
  have hvalue := Nat.lt_of_le_of_lt hpair.2 (show 256 < 256 ^ 2 - 1 by decide)
  exact (reads_text (by omega)).bind ((reads_text (by omega)).map _)

theorem reads_pairs (hpairs : ∀ pair ∈ pairs, ShortPair pair) :
    Reads (readAll (List.replicate pairs.length readPair))
      (pairs.flatMap pairBytes) pairs := by
  induction pairs with
  | nil => exact Reads.pure []
  | cons pair pairs ih =>
      obtain ⟨hpair, hrest⟩ := List.forall_mem_cons.mp hpairs
      exact (reads_pair hpair).cons (ih hrest)

/-- The request without its working directory. -/
def frontOf (strings : Strings) (host : Host)
    (transport : Option (List UInt8)) : Conreq :=
  { conreqOf strings host transport with cwd := [] }

theorem reads_front (strings : Strings) (host : Host)
    (transport : Option (List UInt8)) :
    Reads readFront
      (headBytes strings transport ++ (envBytes (envPairs strings) ++
        hostBytes host))
      (frontOf strings host transport) := by
  have hslot (slot : Slot) (hslot : slot ≠ .service) :
      Reads readText (textBytes (strings slot).val) (strings slot).val :=
    reads_text (by have := @length_string strings slot hslot; omega)
  have hhost : Reads readText (textBytes host.hostnameOut) host.hostnameOut :=
    reads_text (by have := length_hostnameOut host; omega)
  have hpid : host.pid.toNat < 256 ^ 4 := host.pid.toNat_lt
  have hcount : (envPairs strings).length < 256 ^ 2 :=
    show 6 < 256 ^ 2 by decide
  have hbytes : headBytes strings transport ++
      (envBytes (envPairs strings) ++ hostBytes host) =
        openingBytes ++ (textBytes (strings .username).val ++
          (textBytes (strings .password).val ++ (protocolBytes ++
            (eightOctets (transport.getD (octets "tlitcp")) ++ (levelBytes ++
              (textBytes (strings .server).val ++ (List.replicate 10 0 ++
                (bigEndian 2 106 ++ (bigEndian 2 (envPairs strings).length ++
                  ((envPairs strings).flatMap pairBytes ++
                    ((bigEndian 2 107 ++ bigEndian 4 0) ++
                      (bigEndian 4 host.pid.toNat ++ (bigEndian 4 0 ++
                        (textBytes host.hostnameOut ++
                          ([0, 0] ++ []))))))))))))))) := by
    simp only [headBytes, envBytes, hostBytes, List.append_assoc,
      List.append_nil]
  rw [hbytes]
  refine (Reads.expect _).bind <| (hslot .username (by decide)).bind <|
    (hslot .password (by decide)).bind <| (Reads.expect _).bind ?_
  refine (Reads.take (length_eightOctets _)).bind <| (Reads.expect _).bind <|
    (hslot .server (by decide)).bind <| (Reads.expect _).bind ?_
  refine (Reads.expect _).bind <| (Reads.natural hcount).bind <|
    (reads_pairs (envPairs_short strings)).bind <| (Reads.expect _).bind ?_
  exact (Reads.natural hpid).bind <| (Reads.expect _).bind <| hhost.bind <|
    (Reads.expect _).bind (Reads.pure _)

/-- A working directory that `wstr` stores in full. -/
theorem reads_tail {cwd : List UInt8} (hcwd : cwd.length ≤ 256)
    (front : Conreq) :
    readTail front (fieldBytes cwd ++ appBytes) =
      some ({ front with cwd := cwd }, []) := by
  have happ : Reads (do
      expect appBytes
      return { front with cwd := cwd }) (appBytes ++ [])
      { front with cwd := cwd } :=
    (Reads.expect _).bind (Reads.pure _)
  rw [List.append_nil] at happ
  rw [fieldBytes_eq hcwd]
  exact ((reads_text (by omega)).bind happ).all

theorem take_eq_some {count : Nat} {bytes : List UInt8} {found : List UInt8}
    {rest : List UInt8} (hread : take count bytes = some (found, rest)) :
    bytes.length = count + rest.length := by
  unfold take at hread
  split at hread
  · next hcount =>
      cases hread
      rw [List.length_drop]
      omega
  · cases hread

theorem expect_eq_some {wanted bytes rest : List UInt8}
    (hread : expect wanted bytes = some ((), rest)) :
    bytes.length = wanted.length + rest.length := by
  obtain ⟨found, middle, htake, hfound⟩ := reader_bind_eq_some.mp hread
  have hlength := take_eq_some htake
  split at hfound
  · cases hfound
    exact hlength
  · cases hfound

/-- A text has as many octets as its length says. -/
theorem readText_eq_some {bytes rest : List UInt8}
    (hread : readText bytes = some (text, rest)) :
    bytes.length = 2 + natOfBytes (bytes.take 2) + rest.length := by
  obtain ⟨length, middle, hlength, hrest⟩ := reader_bind_eq_some.mp hread
  change (take 2 >>= fun found => pure (natOfBytes found)) bytes = _ at hlength
  obtain ⟨prefixed, other, htake, hvalue⟩ := reader_bind_eq_some.mp hlength
  have htwo := take_eq_some htake
  unfold take at htake
  rw [if_pos (by omega)] at htake
  cases htake
  cases hvalue
  split at hrest
  · cases hrest
  · next hpositive =>
      obtain ⟨body, later, hbody, hend⟩ := reader_bind_eq_some.mp hrest
      obtain ⟨_, last, hnul, hreturn⟩ := reader_bind_eq_some.mp hend
      cases hreturn
      have hbodyLength := take_eq_some hbody
      have hnulLength := expect_eq_some hnul
      rw [List.length_singleton] at hnulLength
      omega

/-- For a longer one the length promises octets that are not there. -/
theorem readTail_long {cwd : List UInt8} (hlong : 256 < cwd.length)
    (hcwd : cwd.length ≤ 510) {front found : Conreq} {rest : List UInt8} :
    readTail front (fieldBytes cwd ++ appBytes) ≠ some (found, rest) := by
  intro hread
  obtain ⟨text, middle, htext, hrest⟩ := reader_bind_eq_some.mp hread
  obtain ⟨_, last, happ, -⟩ := reader_bind_eq_some.mp hrest
  have hlength := readText_eq_some htext
  have hlast := expect_eq_some happ
  have hfront : (fieldBytes cwd ++ appBytes).take 2 =
      bigEndian 2 (cwd.length + 1) := by
    rw [fieldBytes, List.append_assoc, List.take_left' (length_bigEndian _ _)]
  rw [hfront, natOfBytes_bigEndian_of_lt (by omega), hlast] at hlength
  simp only [fieldBytes, List.length_append, length_bigEndian,
    List.length_take, List.length_cons, List.length_nil, length_appBytes]
    at hlength
  omega

/-! The request as a whole. -/

theorem length_encoded (strings : Strings)
    (transport : Option (List UInt8)) :
    (headBytes strings transport ++ envBytes (envPairs strings)).length =
      232 + (strings .username).val.length + (strings .password).val.length +
        (strings .server).val.length +
        (locale "en_US.utf8" (strings .clientLocale).val).length +
        (locale "en_US.8859-1" (strings .dbLocale).val).length := by
  rw [List.length_append, length_headBytes, length_envBytes]
  omega

theorem encodeConreq_fits
    (hroom : (headBytes strings transport ++
      envBytes (envPairs strings)).length + (tailBytes host).length ≤ 2048) :
    encodeConreq strings host transport 2048 = .ok () ⟨2048,
      (headBytes strings transport ++ envBytes (envPairs strings)) ++
        tailBytes host⟩ := by
  rw [encodeConreq_eq]
  exact (emits_tail host).fits hroom

theorem encodeConreq_overruns
    (hsize : (headBytes strings transport ++
      envBytes (envPairs strings)).length ≤ 2048)
    (hroom : 2048 < (headBytes strings transport ++
      envBytes (envPairs strings)).length + (tailBytes host).length) :
    ∃ after, encodeConreq strings host transport 2048 =
      .error .overrun after := by
  rw [encodeConreq_eq]
  exact (emits_tail host).overruns hsize hroom

theorem readConreq_eq (strings : Strings) (host : Host)
    (transport : Option (List UInt8)) :
    readConreq ((headBytes strings transport ++
        envBytes (envPairs strings)) ++ tailBytes host) =
      readTail (frontOf strings host transport)
        (fieldBytes host.cwdOut ++ appBytes) := by
  have hbytes : (headBytes strings transport ++
      envBytes (envPairs strings)) ++ tailBytes host =
        (headBytes strings transport ++ (envBytes (envPairs strings) ++
          hostBytes host)) ++ (fieldBytes host.cwdOut ++ appBytes) := by
    simp only [tailBytes, List.append_assoc]
  change (readFront _).bind _ = _
  rw [hbytes, reads_front]
  rfl

theorem length_encoded_le (strings : Strings)
    (transport : Option (List UInt8)) :
    (headBytes strings transport ++ envBytes (envPairs strings)).length ≤
      1507 := by
  have hencoded := length_encoded strings transport
  have husername := @length_string strings .username nofun
  have hpassword := @length_string strings .password nofun
  have hserver := @length_string strings .server nofun
  have hclient : (locale "en_US.utf8" (strings .clientLocale).val).length ≤
      255 := length_locale (length_string .clientLocale nofun) (by decide)
  have hdb : (locale "en_US.8859-1" (strings .dbLocale).val).length ≤ 255 :=
    length_locale (length_string .dbLocale nofun) (by decide)
  omega

theorem ConreqSound.bounds (hsound : ConreqSound strings host transport) :
    host.cwdOut.length ≤ 256 ∧ conreqLength strings host ≤ 2048 := by
  have hencoded := length_encoded strings transport
  have hle := length_encoded_le strings transport
  have htail := length_tailBytes host
  unfold ConreqSound at hsound
  by_cases hroom : (headBytes strings transport ++
      envBytes (envPairs strings)).length + (tailBytes host).length ≤ 2048
  · rw [encodeConreq_fits hroom] at hsound
    dsimp only at hsound
    rw [readConreq_eq] at hsound
    have hcwd : host.cwdOut.length ≤ 256 := by
      by_contra hlong
      exact readTail_long (Nat.not_le.mp hlong) (length_cwdOut host) hsound.2
    refine ⟨hcwd, ?_⟩
    unfold conreqLength
    omega
  · obtain ⟨after, hrun⟩ := encodeConreq_overruns (by omega)
      (Nat.not_le.mp hroom)
    rw [hrun] at hsound
    cases hsound

theorem conreqSound_of_bounds (hcwd : host.cwdOut.length ≤ 256)
    (htotal : conreqLength strings host ≤ 2048) :
    ConreqSound strings host transport := by
  have hencoded := length_encoded strings transport
  have htail := length_tailBytes host
  unfold conreqLength at htotal
  have hroom : (headBytes strings transport ++
      envBytes (envPairs strings)).length + (tailBytes host).length ≤
        2048 := by
    omega
  unfold ConreqSound
  rw [encodeConreq_fits hroom]
  dsimp only
  rw [readConreq_eq, reads_tail hcwd]
  refine ⟨?_, rfl⟩
  rw [List.length_append]
  exact hroom

theorem conreq_sound_iff (strings : Strings) (host : Host)
    (transport : Option (List UInt8)) :
    ConreqSound strings host transport ↔
      host.cwdOut.length ≤ 256 ∧ conreqLength strings host ≤ 2048 :=
  ⟨ConreqSound.bounds, fun hbounds =>
    conreqSound_of_bounds hbounds.1 hbounds.2⟩

/-- A working directory of 257 octets, and no name but `localhost`. -/
def deepHost : Host where
  pid := 1
  hostname := none
  cwd := some ⟨List.replicate 257 97, by rw [List.length_replicate]; omega⟩

/-- Each of them as long as its buffer allows. -/
def fullStrings : Strings := fun slot =>
  ⟨List.replicate (slot.size - 1) 97, by
    rw [List.length_replicate]
    exact Nat.sub_lt slot.size_pos Nat.one_pos⟩

def fullHost : Host where
  pid := 1
  hostname := some ⟨List.replicate 255 97, by rw [List.length_replicate]; decide⟩
  cwd := some ⟨List.replicate 510 97, by rw [List.length_replicate]; decide⟩

theorem length_fullStrings (slot : Slot) :
    (fullStrings slot).val.length = slot.size - 1 :=
  List.length_replicate

theorem length_locale_full (default : String) {slot : Slot}
    (hslot : slot.size = 256) :
    (locale default (fullStrings slot).val).length = 255 := by
  have hlength := length_fullStrings slot
  rw [locale, if_neg, hlength, hslot]
  intro hempty
  rw [hempty, hslot] at hlength
  cases hlength

theorem encodeConreq_full :
    ∃ after, encodeConreq fullStrings fullHost none 2048 =
      .error .overrun after := by
  have hencoded := length_encoded fullStrings none
  have htail := length_tailBytes fullHost
  have hhostname : fullHost.hostnameOut.length = 255 := List.length_replicate
  have hcwd : fullHost.cwdOut.length = 510 := List.length_replicate
  rw [length_fullStrings, length_fullStrings, length_fullStrings,
    length_locale_full "en_US.utf8" rfl,
    length_locale_full "en_US.8859-1" rfl] at hencoded
  rw [hhostname, hcwd] at htail
  simp only [Slot.size] at hencoded
  exact encodeConreq_overruns (by omega) (by omega)

/-- The directory is stored short; with all strings full the request
leaves the buffer. -/
theorem conreq_short_and_long :
    ¬ ConreqSound Strings.empty deepHost none ∧
      ∃ after, encodeConreq fullStrings fullHost none 2048 =
        .error .overrun after := by
  refine ⟨mt ConreqSound.bounds ?_, encodeConreq_full⟩
  rintro ⟨hcwd, -⟩
  have hlength : deepHost.cwdOut.length = 257 := List.length_replicate
  omega

end Libsqli.Handshake
