import Libsqli.Data.Base64
import Libsqli.Handshake.Conreq

namespace Libsqli.Handshake

open Libsqli.Data.Bytes
open Libsqli.Data.Ctype (octets)
open Libsqli.Data.Filling

/-! The preamble over a Unix socket. -/

/-- `sqli_b64_alpha` -/
def b64Alpha : List UInt8 :=
  octets "ABCDEFGHIJKLMNOPQRSTUVWXYZabcdefghijklmnopqrstuvwxyz0123456789._"

/-- `sqli_b64_encode` -/
def b64Encode : List UInt8 → Filler Unit
  | first :: second :: third :: rest => do
      demand 4
      store (Data.Base64.encode b64Alpha [first, second, third])
      b64Encode rest
  | [] => pure ()
  | last => do
      demand 3
      store (Data.Base64.encode b64Alpha last)

/-- An argument of `snprintf`, blanks behind it up to `width`. -/
def leftAligned (width : Nat) (text : List UInt8) : List UInt8 :=
  text ++ List.replicate (width - text.length) 32

def legacyStyle (strings : Strings) : Bool :=
  (strings .username).val ≠ octets "informix"

def productText (strings : Strings) : List UInt8 :=
  octets "sqlexec " ++
    (leftAligned (if legacyStyle strings then 6 else 9) (strings .username).val ++
      octets " 9.240 serial -p -fIEEEI ")

def effectiveLocale (strings : Strings) : List UInt8 :=
  locale "en_US.utf8" (strings .dbLocale).val

def clientLocaleOut (strings : Strings) : List UInt8 :=
  if (strings .clientLocale).val = [] then effectiveLocale strings
  else (strings .clientLocale).val

def environmentText (strings : Strings) : List UInt8 :=
  octets "DBPATH=//" ++ ((strings .server).val ++ (octets " CLIENT_LOCALE=" ++
    (clientLocaleOut strings ++ (octets " NODEFDAC=no CLNT_PAM_CAPABLE=1 " ++
      if legacyStyle strings then
        octets "DB_LOCALE=" ++ (effectiveLocale strings ++ octets " ")
      else []))))

/-- The macro of this name. -/
def wb16 (value : Nat) : Filler Unit := do
  demand 2
  store (bigEndian 2 value)

def fixedPrefix : Filler Unit := do
  wb16 0x006D
  wb16 0x0000
  wb16 0x003D
  demand 10
  store (octets "on" ++ List.replicate 8 0)
  wb16 0x003D
  demand 14
  store (octets "ipcstr" ++ List.replicate 4 0)
  wb16 0x0001
  wb16 0x0000
  wb16 0x013C
  wb16 0x0000
  wb16 0x0000
  demand 16
  store (List.replicate 4 0 ++ (octets "sqlexec" ++ List.replicate 5 0))
  wb16 0x0005
  demand 4
  store (octets "sqli" ++ [0])
  wb16 0x0006
  wb16 0x0000
  wb16 0x0003

/-- A length, the text and its NUL, with room demanded for the text only. -/
def ipcText (text : List UInt8) : Filler Unit := do
  wb16 (text.length + 1)
  demand text.length
  store (text ++ [0])

def processBlock (pid : UInt32) : Filler Unit := do
  wb16 0x006B
  demand 12
  store (List.replicate 4 0 ++ (bigEndian 4 pid.toNat ++ List.replicate 4 0))

/-- The name stays empty if the system does not give one. -/
def Host.ipcHostname (host : Host) : List UInt8 :=
  (host.hostname.map Subtype.val).getD []

def hostnameBlock (hostname : List UInt8) : Filler Unit := do
  wb16 (hostname.length + 1)
  demand (hostname.length + 3)
  store (hostname ++ [0, 0, 0])

def constantBlock : Filler Unit := do
  wb16 0x006E
  wb16 0x0004
  demand 4
  store [0, 0, 0, 2]

def appPathBlock (legacy : Bool) (appPath : List UInt8) : Filler Unit := do
  wb16 0x0074
  wb16 (4 + 4 + 2 + appPath.length + 1)
  wb16 0x0000
  wb16 (if legacy then 0x03E8 else 0x03E7)
  demand 4
  store (if legacy then [0, 0, 0x03, 0xE8] else [0, 0, 3, 0xDD])
  wb16 (appPath.length + 1)
  demand (appPath.length + 1)
  store (appPath ++ [0])

def preambleBody (strings : Strings) (host : Host) (appPath : Text 512) :
    Filler Unit := do
  fixedPrefix
  ipcText (strings .server).val
  processBlock host.pid
  hostnameBlock host.ipcHostname
  ipcText host.cwdOut
  constantBlock
  appPathBlock (legacyStyle strings) appPath.val
  wb16 0x007F

/-- Behind the ten octets that are left for the magic header. -/
def preambleRest (strings : Strings) (host : Host) (appPath : Text 512) :
    Filler Unit := do
  demand (productText strings).length
  store (productText strings)
  demand (environmentText strings).length
  store (environmentText strings ++ octets ":")
  let body ← onBuffer 512 (preambleBody strings host appPath)
  if body = [] then throw .refused else b64Encode body
  demand 1
  store [0]

def magicHeader (restLength : Nat) : List UInt8 :=
  bigEndian 2 restLength ++ [0x01, 0x3D, 0x00, 0x00]

def writeMagic : Filler Unit := do
  let length ← position
  let encoded ← onBuffer 9 (b64Encode (magicHeader (length - 4)))
  if encoded.length ≠ 8 then throw .refused
  else patch 0 (octets "sq" ++ encoded)

/-- `sqli_asc_encode_ipc_preamble`; giving up is a length of zero. -/
def encodeIpcPreamble (strings : Strings) (host : Host) (appPath : Text 512)
    (size : Nat) : EStateM.Result Stop Buffer Unit :=
  if size < 512 then .error .refused ⟨size, []⟩
  else (do
    store (List.replicate 10 0)
    preambleRest strings host appPath
    writeMagic : Filler Unit) ⟨size, []⟩

/-! What it stores. -/

variable {strings : Strings} {host : Host} {appPath : Text 512}
  {text : List UInt8}

theorem b64Alpha_symbols : Data.Base64.Symbols b64Alpha :=
  ⟨by decide, by decide⟩

theorem encode_group (first second third : UInt8) (rest : List UInt8) :
    Data.Base64.encode b64Alpha [first, second, third] ++
        Data.Base64.encode b64Alpha rest =
      Data.Base64.encode b64Alpha (first :: second :: third :: rest) := by
  simp [Data.Base64.encode, Data.Base64.sextets]

theorem length_encode_last {last : List UInt8} (hlast : last.length ≤ 2) :
    (Data.Base64.encode b64Alpha last).length ≤ 3 := by
  match last with
  | [] => simp [Data.Base64.encode, Data.Base64.sextets]
  | [_] => simp [Data.Base64.encode, Data.Base64.sextets]
  | [_, _] => simp [Data.Base64.encode, Data.Base64.sextets]
  | _ :: _ :: _ :: _ => simp at hlast

theorem guards_b64Encode (source : List UInt8) :
    Guards (b64Encode source) (Data.Base64.encode b64Alpha source) () := by
  fun_induction b64Encode source with
  | case1 first second third rest ih =>
      rw [← encode_group]
      refine Guards.demandThen (Emits.store _) ?_ ih
      simp [Data.Base64.encode, Data.Base64.sextets]
  | case2 => exact Guards.pure ()
  | case3 last hgroup hnonempty =>
      refine Guards.demand (Emits.store _) ?_
      refine (length_encode_last ?_).trans (by decide)
      rcases last with _ | ⟨first, _ | ⟨second, _ | ⟨third, rest⟩⟩⟩
      · simp
      · simp
      · simp
      · exact absurd rfl (hgroup first second third rest)

theorem guards_wb16 (value : Nat) : Guards (wb16 value) (bigEndian 2 value) () :=
  Guards.demand (Emits.store _) (by simp)

def fixedPrefixBytes : List UInt8 :=
  bigEndian 2 0x006D ++ (bigEndian 2 0x0000 ++ (bigEndian 2 0x003D ++
    ((octets "on" ++ List.replicate 8 0) ++ (bigEndian 2 0x003D ++
      ((octets "ipcstr" ++ List.replicate 4 0) ++ (bigEndian 2 0x0001 ++
        (bigEndian 2 0x0000 ++ (bigEndian 2 0x013C ++ (bigEndian 2 0x0000 ++
          (bigEndian 2 0x0000 ++ ((List.replicate 4 0 ++
            (octets "sqlexec" ++ List.replicate 5 0)) ++ (bigEndian 2 0x0005 ++
              ((octets "sqli" ++ [0]) ++ (bigEndian 2 0x0006 ++
                (bigEndian 2 0x0000 ++ bigEndian 2 0x0003)))))))))))))))

theorem guards_fixedPrefix : Guards fixedPrefix fixedPrefixBytes () := by
  refine (guards_wb16 _).bind <| (guards_wb16 _).bind <|
    (guards_wb16 _).bind ?_
  refine Guards.demandThen (Emits.store _) (by decide) ?_
  refine (guards_wb16 _).bind <|
    Guards.demandThen (Emits.store _) (by decide) ?_
  refine (guards_wb16 _).bind <| (guards_wb16 _).bind <|
    (guards_wb16 _).bind <| (guards_wb16 _).bind <| (guards_wb16 _).bind ?_
  refine Guards.demandThen (Emits.store _) (by decide) ?_
  refine (guards_wb16 _).bind <|
    Guards.demandThen (Emits.store _) (by decide) ?_
  exact (guards_wb16 _).bind <| (guards_wb16 _).bind (guards_wb16 _)

theorem guards_ipcText (text : List UInt8) :
    Guards (ipcText text) (textBytes text) () :=
  (guards_wb16 _).bind (Guards.demand (Emits.store _) (by simp))

def processBytes (pid : UInt32) : List UInt8 :=
  (bigEndian 2 0x006B ++ List.replicate 4 0) ++
    (bigEndian 4 pid.toNat ++ List.replicate 4 0)

theorem guards_processBlock (pid : UInt32) :
    Guards (processBlock pid) (processBytes pid) () := by
  rw [processBytes, List.append_assoc]
  exact (guards_wb16 _).bind (Guards.demand (Emits.store _) (by simp))

theorem guards_hostnameBlock (hostname : List UInt8) :
    Guards (hostnameBlock hostname) (textBytes hostname ++ [0, 0]) () := by
  have hbytes : textBytes hostname ++ [0, 0] =
      bigEndian 2 (hostname.length + 1) ++ (hostname ++ [0, 0, 0]) := by
    simp [textBytes]
  rw [hbytes]
  exact (guards_wb16 _).bind (Guards.demand (Emits.store _) (by simp))

def constantBytes : List UInt8 :=
  bigEndian 2 0x006E ++ (bigEndian 2 0x0004 ++ [0, 0, 0, 2])

theorem guards_constantBlock : Guards constantBlock constantBytes () :=
  (guards_wb16 _).bind <| (guards_wb16 _).bind <|
    Guards.demand (Emits.store _) (by decide)

/-- The block of tag 0x74 behind its length. -/
def appPathBytes (legacy : Bool) (appPath : List UInt8) : List UInt8 :=
  (bigEndian 2 0x0000 ++ bigEndian 2 (if legacy then 0x03E8 else 0x03E7)) ++
    ((if legacy then [0, 0, 0x03, 0xE8] else [0, 0, 3, 0xDD]) ++
      textBytes appPath)

theorem length_appPathBytes (legacy : Bool) (appPath : List UInt8) :
    (appPathBytes legacy appPath).length = 4 + 4 + 2 + appPath.length + 1 := by
  cases legacy <;> simp [appPathBytes, textBytes] <;> omega

theorem guards_appPathBlock (legacy : Bool) (appPath : List UInt8) :
    Guards (appPathBlock legacy appPath)
      (bigEndian 2 0x0074 ++
        (bigEndian 2 (appPathBytes legacy appPath).length ++
          appPathBytes legacy appPath)) () := by
  rw [length_appPathBytes, appPathBytes, List.append_assoc, textBytes]
  refine (guards_wb16 _).bind <| (guards_wb16 _).bind <|
    (guards_wb16 _).bind <| (guards_wb16 _).bind ?_
  refine Guards.demandThen (Emits.store _) ?_ ?_
  · cases legacy <;> decide
  · exact (guards_wb16 _).bind (Guards.demand (Emits.store _) (by simp))

def preambleBodyBytes (strings : Strings) (host : Host) (appPath : Text 512) :
    List UInt8 :=
  fixedPrefixBytes ++ (textBytes (strings .server).val ++
    (processBytes host.pid ++ ((textBytes host.ipcHostname ++ [0, 0]) ++
      (textBytes host.cwdOut ++ (constantBytes ++
        ((bigEndian 2 0x0074 ++
          (bigEndian 2 (appPathBytes (legacyStyle strings) appPath.val).length ++
            appPathBytes (legacyStyle strings) appPath.val)) ++
          bigEndian 2 0x007F))))))

theorem guards_preambleBody (strings : Strings) (host : Host)
    (appPath : Text 512) :
    Guards (preambleBody strings host appPath) (preambleBodyBytes strings host appPath)
      () :=
  guards_fixedPrefix.bind <| (guards_ipcText _).bind <|
    (guards_processBlock _).bind <| (guards_hostnameBlock _).bind <|
    (guards_ipcText _).bind <| guards_constantBlock.bind <|
    (guards_appPathBlock _ _).bind (guards_wb16 _)

def restBytes (strings : Strings) (host : Host) (appPath : Text 512) :
    List UInt8 :=
  productText strings ++ ((environmentText strings ++ octets ":") ++
    ([] ++ (Data.Base64.encode b64Alpha (preambleBodyBytes strings host appPath) ++
      [0])))

theorem guards_preambleRest (strings : Strings) (host : Host)
    (appPath : Text 512) :
    Guards (preambleRest strings host appPath)
      (restBytes strings host appPath) () := by
  refine Guards.demandThen (Emits.store _) (Nat.le_succ _) ?_
  refine Guards.demandThen (Emits.store _) (by simp [octets]) ?_
  refine (Guards.onBuffer (guards_preambleBody strings host appPath)).bind ?_
  have hencoded : Guards
      (if preambleBodyBytes strings host appPath = [] then throw .refused
        else b64Encode (preambleBodyBytes strings host appPath))
      (Data.Base64.encode b64Alpha (preambleBodyBytes strings host appPath)) () := by
    split
    · exact Guards.throw _ _
    · exact guards_b64Encode _
  exact hencoded.bind (Guards.demand (Emits.store _) (by simp))

end Libsqli.Handshake
