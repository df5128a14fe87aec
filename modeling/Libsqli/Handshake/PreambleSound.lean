import Libsqli.Handshake.ConreqSound
import Libsqli.Handshake.Preamble

namespace Libsqli.Handshake

open Libsqli.Data.Bytes
open Libsqli.Data.Ctype (octets)
open Libsqli.Data.Filling

variable {strings : Strings} {host : Host} {appPath : Text 512} {size : Nat}

/-! The layout of the preamble. -/

/-- The block of tag 0x74. -/
structure AppBlock where
  first : Nat
  second : Nat
  appPath : List UInt8

structure IpcFields where
  server : List UInt8
  pid : Nat
  hostname : List UInt8
  cwd : List UInt8
  app : AppBlock

def readAppBlock : Reader AppBlock := do
  let first ← natural 4
  let second ← natural 4
  let appPath ← readText
  return ⟨first, second, appPath⟩

/-- All of some octets. -/
def whole (reader : Reader α) (bytes : List UInt8) : Reader α :=
  match reader bytes with
  | some (value, []) => pure value
  | _ => failure

/-- The end marker stands where the length of the block says. -/
def readPreambleBody : Reader IpcFields := do
  expect fixedPrefixBytes
  let server ← readText
  expect (bigEndian 2 0x006B ++ List.replicate 4 0)
  let pid ← natural 4
  expect (List.replicate 4 0)
  let hostname ← readText
  expect [0, 0]
  let cwd ← readText
  expect constantBytes
  expect (bigEndian 2 0x0074)
  let length ← natural 2
  let block ← take length
  expect (bigEndian 2 0x007F)
  let app ← whole readAppBlock block
  return ⟨server, pid, hostname, cwd, app⟩

def ipcFieldsOf (strings : Strings) (host : Host) (appPath : Text 512) :
    IpcFields where
  server := (strings .server).val
  pid := host.pid.toNat
  hostname := host.ipcHostname
  cwd := host.cwdOut
  app :=
    { first := if legacyStyle strings then 1000 else 999
      second := if legacyStyle strings then 1000 else 989
      appPath := appPath.val }

/-- The magic, the text, a colon, and the body up to a NUL. -/
def IsPreamble (strings : Strings) (host : Host) (appPath : Text 512)
    (preamble : List UInt8) : Prop :=
  ∃ magic header encoded body,
    preamble = octets "sq" ++ (magic ++ (productText strings ++
      (environmentText strings ++ (octets ":" ++ (encoded ++ [0]))))) ∧
    magic.length = 8 ∧ Data.Base64.decode b64Alpha magic = some header ∧
    natOfBytes (header.take 2) = preamble.length - 4 ∧
    header.drop 2 = [0x01, 0x3D, 0x00, 0x00] ∧
    Data.Base64.decode b64Alpha encoded = some body ∧
    readPreambleBody body = some (ipcFieldsOf strings host appPath, [])

/-- The encoder stays inside its buffers, and gives up or stores a preamble. -/
structure PreambleSound (strings : Strings) (host : Host) (appPath : Text 512)
    (size : Nat) : Prop where
  stored : ∀ buffer,
    encodeIpcPreamble strings host appPath size = .ok () buffer →
      buffer.octets.length ≤ size ∧
        IsPreamble strings host appPath buffer.octets
  inside : ∀ after,
    encodeIpcPreamble strings host appPath size ≠ .error .overrun after

/-! The body as it is read. -/

theorem reads_appBlock (legacy : Bool) (appPath : Text 512) :
    Reads readAppBlock (appPathBytes legacy appPath.val)
      ⟨if legacy then 1000 else 999, if legacy then 1000 else 989,
        appPath.val⟩ := by
  have hpath : Reads readText (textBytes appPath.val) appPath.val :=
    reads_text (by have := appPath.property; omega)
  cases legacy with
  | true =>
      have hfirst : Reads (natural 4) (bigEndian 2 0x0000 ++ bigEndian 2 0x03E8)
          1000 := @Reads.natural 4 1000 (by decide)
      have hsecond : Reads (natural 4) [0, 0, 0x03, 0xE8] 1000 :=
        @Reads.natural 4 1000 (by decide)
      exact hfirst.bind (hsecond.bind (hpath.map _))
  | false =>
      have hfirst : Reads (natural 4) (bigEndian 2 0x0000 ++ bigEndian 2 0x03E7)
          999 := @Reads.natural 4 999 (by decide)
      have hsecond : Reads (natural 4) [0, 0, 3, 0xDD] 989 :=
        @Reads.natural 4 989 (by decide)
      exact hfirst.bind (hsecond.bind (hpath.map _))

theorem reads_whole {reader : Reader α} {bytes : List UInt8} {value : α}
    (hreader : Reads reader bytes value) : Reads (whole reader bytes) [] value := by
  unfold whole
  rw [hreader.all]
  exact Reads.pure value

theorem length_ipcHostname (host : Host) : host.ipcHostname.length ≤ 255 := by
  unfold Host.ipcHostname
  cases host.hostname with
  | none => decide
  | some hostname => exact Nat.le_of_lt_succ hostname.property

theorem reads_preambleBody (strings : Strings) (host : Host) (appPath : Text 512) :
    Reads readPreambleBody (preambleBodyBytes strings host appPath)
      (ipcFieldsOf strings host appPath) := by
  have hserver : Reads readText (textBytes (strings .server).val)
      (strings .server).val :=
    reads_text (by have := @length_string strings .server nofun; omega)
  have hhostname : Reads readText (textBytes host.ipcHostname)
      host.ipcHostname :=
    reads_text (by have := length_ipcHostname host; omega)
  have hcwd : Reads readText (textBytes host.cwdOut) host.cwdOut :=
    reads_text (by have := length_cwdOut host; omega)
  have hpid : host.pid.toNat < 256 ^ 4 := host.pid.toNat_lt
  have hblock : (appPathBytes (legacyStyle strings) appPath.val).length <
      256 ^ 2 := by
    have hpath := appPath.property
    rw [length_appPathBytes]
    omega
  have hbytes : preambleBodyBytes strings host appPath =
      fixedPrefixBytes ++ (textBytes (strings .server).val ++
        ((bigEndian 2 0x006B ++ List.replicate 4 0) ++
          (bigEndian 4 host.pid.toNat ++ (List.replicate 4 0 ++
            (textBytes host.ipcHostname ++ ([0, 0] ++
              (textBytes host.cwdOut ++ (constantBytes ++
                (bigEndian 2 0x0074 ++
                  (bigEndian 2 (appPathBytes (legacyStyle strings)
                      appPath.val).length ++
                    (appPathBytes (legacyStyle strings) appPath.val ++
                      (bigEndian 2 0x007F ++ ([] ++ []))))))))))))) := by
    simp only [preambleBodyBytes, processBytes, List.append_assoc, List.append_nil]
  rw [hbytes]
  refine (Reads.expect _).bind <| hserver.bind <| (Reads.expect _).bind <|
    (Reads.natural hpid).bind <| (Reads.expect _).bind <| hhostname.bind ?_
  refine (Reads.expect _).bind <| hcwd.bind <| (Reads.expect _).bind <|
    (Reads.expect _).bind <| (Reads.natural hblock).bind ?_
  exact (Reads.take rfl).bind <| (Reads.expect _).bind <|
    (reads_whole (reads_appBlock _ appPath)).bind (Reads.pure _)

/-! The preamble as a whole. -/

theorem length_magic (restLength : Nat) :
    (Data.Base64.encode b64Alpha (magicHeader restLength)).length = 8 := by
  have hlength : (magicHeader restLength).length = 6 := by
    simp [magicHeader]
  match hheader : magicHeader restLength with
  | [_, _, _, _, _, _] => rfl
  | [] | [_] | [_, _] | [_, _, _] | [_, _, _, _] | [_, _, _, _, _]
  | _ :: _ :: _ :: _ :: _ :: _ :: _ :: _ => simp [hheader] at hlength

/-- What is behind the magic, and the magic over it. -/
def preambleBytes (strings : Strings) (host : Host) (appPath : Text 512) :
    List UInt8 :=
  (octets "sq" ++ Data.Base64.encode b64Alpha
    (magicHeader (10 + (restBytes strings host appPath).length - 4))) ++
      restBytes strings host appPath

theorem writeMagic_apply {rest : List UInt8}
    (hroom : 10 + rest.length ≤ size) :
    writeMagic ⟨size, List.replicate 10 0 ++ rest⟩ =
        .ok () ⟨size, (octets "sq" ++ Data.Base64.encode b64Alpha
          (magicHeader (10 + rest.length - 4))) ++ rest⟩ ∨
      ∃ after, writeMagic ⟨size, List.replicate 10 0 ++ rest⟩ =
        .error .refused after := by
  have hlength : (List.replicate 10 (0 : UInt8) ++ rest).length =
      10 + rest.length := by
    rw [List.length_append, List.length_replicate]
  have hmagic := length_magic (10 + rest.length - 4)
  unfold writeMagic
  rw [Data.Program.bind_apply, position]
  dsimp only
  rw [hlength, Data.Program.bind_apply]
  rcases Guards.onBuffer (guards_b64Encode (magicHeader (10 + rest.length - 4)))
    ⟨size, List.replicate 10 0 ++ rest⟩ (hlength ▸ hroom) with
    ⟨hrun, -⟩ | ⟨after, hrun⟩
  · left
    rw [hrun]
    dsimp only
    rw [if_neg (not_not.mpr hmagic)]
    refine @patch_apply _ [] rest _ (List.replicate 10 0) ?_ ?_ ?_
    · simp [Buffer.append]
    · rw [List.length_append, hmagic]
      decide
    · simp only [Buffer.append, List.append_nil]
      exact hlength ▸ hroom
  · right
    rw [hrun]
    exact ⟨after, rfl⟩

theorem encodeIpcPreamble_cases (strings : Strings) (host : Host)
    (appPath : Text 512) (size : Nat) :
    (encodeIpcPreamble strings host appPath size =
        .ok () ⟨size, preambleBytes strings host appPath⟩ ∧
      10 + (restBytes strings host appPath).length ≤ size) ∨
      ∃ after, encodeIpcPreamble strings host appPath size =
        .error .refused after := by
  unfold encodeIpcPreamble
  by_cases hsmall : size < 512
  · rw [if_pos hsmall]
    exact .inr ⟨_, rfl⟩
  · have hskip : store (List.replicate 10 0) ⟨size, []⟩ =
        .ok () ⟨size, List.replicate 10 0⟩ :=
      (Emits.store _).fits (by
        simp only [List.length_nil, List.length_replicate]
        omega)
    rw [if_neg hsmall, Data.Program.bind_apply, hskip]
    dsimp only
    rw [Data.Program.bind_apply]
    have hten : (List.replicate 10 (0 : UInt8)).length = 10 :=
      List.length_replicate
    rcases guards_preambleRest strings host appPath
      ⟨size, List.replicate 10 0⟩ (by dsimp only; omega) with
      ⟨hrun, hroom⟩ | ⟨after, hrun⟩
    · rw [hrun]
      dsimp only at hroom ⊢
      rw [hten] at hroom
      rcases writeMagic_apply hroom with hmagic | ⟨after, hmagic⟩
      · exact .inl ⟨hmagic, hroom⟩
      · exact .inr ⟨after, hmagic⟩
    · rw [hrun]
      exact .inr ⟨after, rfl⟩

theorem length_preambleBytes (strings : Strings) (host : Host)
    (appPath : Text 512) :
    (preambleBytes strings host appPath).length =
      10 + (restBytes strings host appPath).length := by
  rw [preambleBytes, List.length_append, List.length_append, length_magic]
  rfl

theorem isPreamble_preambleBytes
    (hlength : 10 + (restBytes strings host appPath).length ≤ 65535) :
    IsPreamble strings host appPath
      (preambleBytes strings host appPath) := by
  refine ⟨_, _, _, _, ?_,
    length_magic (10 + (restBytes strings host appPath).length - 4),
    Data.Base64.decode_encode b64Alpha_symbols _, ?_, rfl,
    Data.Base64.decode_encode b64Alpha_symbols _,
    (reads_preambleBody strings host appPath).all⟩
  · simp only [preambleBytes, restBytes, List.append_assoc, List.nil_append]
  · rw [length_preambleBytes, magicHeader,
      List.take_left' (length_bigEndian _ _),
      natOfBytes_bigEndian_of_lt (by omega)]

theorem preamble_sound (strings : Strings) (host : Host) (appPath : Text 512)
    (hsize : size ≤ 65535) : PreambleSound strings host appPath size := by
  rcases encodeIpcPreamble_cases strings host appPath size with
    ⟨hrun, hroom⟩ | ⟨after, hrun⟩
  · constructor
    · intro buffer hbuffer
      rw [hrun] at hbuffer
      cases hbuffer
      refine ⟨?_, isPreamble_preambleBytes (hroom.trans hsize)⟩
      rw [length_preambleBytes]
      exact hroom
    · rw [hrun]
      exact nofun
  · constructor
    · rw [hrun]
      exact nofun
    · rw [hrun]
      exact nofun

def siteHost : Host where
  pid := 4711
  hostname := some ⟨octets "client", by decide⟩
  cwd := some ⟨octets "/home/user", by decide⟩

def siteStrings : Strings
  | .hostname => ⟨octets "db.example", by decide⟩
  | .service => ⟨octets "9088", by decide⟩
  | .server => ⟨octets "ol_informix", by decide⟩
  | .database => ⟨octets "stores", by decide⟩
  | .username => ⟨octets "user", by decide⟩
  | .password => ⟨octets "secret", by decide⟩
  | .clientLocale | .dbLocale => ⟨octets "en_US.utf8", by decide⟩

def sitePath : Text 512 := ⟨octets "sqlicon", by decide⟩

/-- The buffer that `sqli_connect` has for it. -/
theorem preamble_sound_connect :
    PreambleSound siteStrings siteHost sitePath 1024 :=
  preamble_sound siteStrings siteHost sitePath (by decide)

/-- It is large enough there. -/
example :
    (match encodeIpcPreamble siteStrings siteHost sitePath 1024 with
      | .ok _ _ => true
      | .error _ _ => false) = true := by
  decide +kernel

end Libsqli.Handshake
