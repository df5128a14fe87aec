import Libsqli.Data.Ctype
import Libsqli.Data.Span
import Libsqli.Uri.Decode

namespace Libsqli.Uri

open Libsqli.Data.Ctype
open Libsqli.Data.Span

/-! `parse_uri_components`. -/

def hash : UInt8 := 35

def atSign : UInt8 := 64

def openBracket : UInt8 := 91

def closeBracket : UInt8 := 93

/-- `uri_components_t`: the ranges that the pointers and lengths denote; a null
pointer denotes nothing. -/
structure UriComponents where
  scheme : List UInt8
  userinfo : List UInt8
  host : List UInt8
  port : List UInt8
  path : List UInt8
  query : List UInt8
  deriving DecidableEq

def schemeMark : List UInt8 := [colon, slash, slash]

/-- `strstr(uri, "://")`: what is in front of the first mark and behind it. -/
def atSchemeMark : List UInt8 → Option (List UInt8 × List UInt8)
  | [] => none
  | byte :: rest =>
      if schemeMark <+: byte :: rest then some ([], (byte :: rest).drop 3)
      else (atSchemeMark rest).map fun (scheme, behind) =>
        (byte :: scheme, behind)

def schemeByte (byte : UInt8) : Bool :=
  isAlnum byte || byte == 43 || byte == 45 || byte == 46

/-- ALPHA *( ALPHA / DIGIT / "+" / "-" / "." ) -/
def validScheme (scheme : List UInt8) : Bool :=
  match scheme with
  | [] => false
  | first :: rest => isAlpha first && rest.all schemeByte

def inAuthority (byte : UInt8) : Bool :=
  byte != slash && byte != questionMark && byte != hash

def inPath (byte : UInt8) : Bool := byte != questionMark && byte != hash

def inQuery (byte : UInt8) : Bool := byte != hash

/-- The user information, and where host and port start. -/
def splitUserinfo (authority : List UInt8) : List UInt8 × List UInt8 :=
  match cut atSign authority with
  | some (userinfo, behind) => (userinfo, behind)
  | none => ([], authority)

/-- What stands behind a closing bracket. -/
def portBehind (text : List UInt8) : List UInt8 :=
  match text with
  | [] => []
  | byte :: rest => if byte = colon then rest else []

/-- Host and port; none is a bracket that is not closed. -/
def splitHostPort (hostPort : List UInt8) : Option (List UInt8 × List UInt8) :=
  match hostPort with
  | [] => some ([], [])
  | byte :: rest =>
      if byte = openBracket then
        (cut closeBracket rest).map fun (host, behind) =>
          (host, portBehind behind)
      else
        match cut colon (byte :: rest) with
        | some (host, port) => some (host, port)
        | none => some (byte :: rest, [])

/-- The path without its leading slashes, and what stands behind it. -/
def splitPath (text : List UInt8) : List UInt8 × List UInt8 :=
  if text.head? = some slash then
    let path := text.dropWhile (· == slash)
    (path.takeWhile inPath, path.dropWhile inPath)
  else ([], text)

def queryOf (text : List UInt8) : List UInt8 :=
  match text with
  | [] => []
  | byte :: rest => if byte = questionMark then rest.takeWhile inQuery else []

/-- `parse_uri_components` -/
def parseUriComponents (uri : Option (List UInt8)) : Option UriComponents := do
  let uri ← uri
  let (scheme, behind) ← atSchemeMark uri
  if validScheme scheme = false then none
  else
    let (userinfo, hostPort) := splitUserinfo (behind.takeWhile inAuthority)
    let (host, port) ← splitHostPort hostPort
    let (path, rest) := splitPath (behind.dropWhile inAuthority)
    some ⟨scheme, userinfo, host, port, path, queryOf rest⟩

open Libsqli.Data

/-! `copy_range` and the query parameters. -/

/-- `copy_range`; the C string that a destination of some size holds. -/
def copyRange (size : Nat) (src : List UInt8) : List UInt8 :=
  src.take (size - 1)

def ampersand : UInt8 := 38

def equalsSign : UInt8 := 61

structure UriQueryEntry where
  key : List UInt8
  value : List UInt8
  deriving DecidableEq

/-- `strtok_r` with "&" -/
def queryTokens (query : List UInt8) : List (List UInt8) :=
  (query.splitOn ampersand).filter (· ≠ [])

def queryEntry (token : List UInt8) : UriQueryEntry :=
  match cut equalsSign token with
  | some (key, value) => ⟨decodedText 128 key, decodedText 256 value⟩
  | none => ⟨decodedText 128 token, []⟩

/-- `parse_query_string`; none is a failed allocation. -/
def parseQueryString (malloc : Bool) (query : List UInt8) (maxEntries : Nat) :
    Option (List UriQueryEntry) :=
  if query = [] then some []
  else if malloc = false then none
  else some (((queryTokens query).take maxEntries).map queryEntry)

/-- `find_query_value` -/
def findQueryValue (entries : List UriQueryEntry) (key : List UInt8) :
    Option (List UInt8) :=
  (entries.find? fun entry => entry.key = key ∧ entry.value ≠ []).map (·.value)

/-! The parameters that a query has. -/

def queryParameter (token : List UInt8) : UriQueryEntry :=
  match cut equalsSign token with
  | some (key, value) => ⟨Percent.decode key, Percent.decode value⟩
  | none => ⟨Percent.decode token, []⟩

def queryParameters (query : List UInt8) : List UriQueryEntry :=
  (queryTokens query).map queryParameter

/-- A text with its end in a buffer of some size. -/
structure FitsText (size : Nat) (text : List UInt8) : Prop where
  length : text.length < size
  ends : 0 ∉ text

structure UriQueryEntry.Fits (entry : UriQueryEntry) : Prop where
  key : FitsText 128 entry.key
  value : FitsText 256 entry.value

variable {size : Nat} {text : List UInt8}

theorem copyRange_eq_iff (hsize : 0 < size) :
    copyRange size text = text ↔ text.length < size := by
  rw [copyRange, List.take_eq_self_iff]
  omega

theorem not_mem_held (text : List UInt8) : 0 ∉ held text := by
  intro hmem
  have hnonzero := List.mem_takeWhile_imp hmem
  exact absurd hnonzero (by decide)

theorem held_take_eq_iff (hsize : 0 < size) :
    held (text.take (size - 1)) = text ↔ FitsText size text := by
  constructor
  · intro hwhole
    refine ⟨?_, hwhole ▸ not_mem_held _⟩
    have hlength := congrArg List.length hwhole
    have hheld := (List.takeWhile_sublist (fun byte : UInt8 => decide (byte ≠ 0))
      (l := text.take (size - 1))).length_le
    rw [held] at hlength
    rw [List.length_take] at hheld
    omega
  · intro hfits
    have hlength := hfits.length
    rw [List.take_of_length_le (by omega), held_of_not_mem hfits.ends]

theorem decodedText_eq_iff (hsize : 0 < size) :
    decodedText size text = Percent.decode text ↔
      FitsText size (Percent.decode text) :=
  held_take_eq_iff hsize

theorem fitsText_nil (hsize : 0 < size) : FitsText size [] :=
  ⟨hsize, List.not_mem_nil⟩

theorem queryEntry_eq_iff (token : List UInt8) :
    queryEntry token = queryParameter token ↔ (queryParameter token).Fits := by
  unfold queryEntry queryParameter
  split
  · rw [UriQueryEntry.mk.injEq, decodedText_eq_iff (by decide),
      decodedText_eq_iff (by decide)]
    exact ⟨fun h => ⟨h.1, h.2⟩, fun h => ⟨h.key, h.value⟩⟩
  · rw [UriQueryEntry.mk.injEq, decodedText_eq_iff (by decide)]
    exact ⟨fun h => ⟨h.1, fitsText_nil (by decide)⟩, fun h => ⟨h.key, rfl⟩⟩

/-- The query as a whole is in the table. -/
structure QueryFits (query : List UInt8) (maxEntries : Nat) : Prop where
  number : (queryTokens query).length ≤ maxEntries
  entries : ∀ parameter ∈ queryParameters query, parameter.Fits

theorem take_map_queryEntry_iff (tokens : List (List UInt8))
    (maxEntries : Nat) :
    (tokens.take maxEntries).map queryEntry = tokens.map queryParameter ↔
      tokens.length ≤ maxEntries ∧
        ∀ token ∈ tokens, (queryParameter token).Fits := by
  constructor
  · intro hwhole
    have hlength := congrArg List.length hwhole
    rw [List.length_map, List.length_map, List.length_take] at hlength
    have hnumber : tokens.length ≤ maxEntries := by omega
    rw [List.take_of_length_le hnumber] at hwhole
    exact ⟨hnumber, fun token hmem => (queryEntry_eq_iff token).mp
      (List.map_inj_left.mp hwhole token hmem)⟩
  · rintro ⟨hnumber, hfits⟩
    rw [List.take_of_length_le hnumber]
    exact List.map_inj_left.mpr fun token hmem =>
      (queryEntry_eq_iff token).mpr (hfits token hmem)

theorem parseQueryString_whole_iff {malloc : Bool} {query : List UInt8}
    {maxEntries : Nat} {entries : List UriQueryEntry}
    (hparse : parseQueryString malloc query maxEntries = some entries) :
    entries = queryParameters query ↔ QueryFits query maxEntries := by
  have htable : entries = ((queryTokens query).take maxEntries).map queryEntry := by
    rw [parseQueryString] at hparse
    split at hparse
    · next hquery =>
      have htokens : queryTokens [] = [] := rfl
      rw [hquery, htokens, List.take_nil]
      exact (Option.some.inj hparse).symm
    · split at hparse
      · cases hparse
      · exact (Option.some.inj hparse).symm
  rw [htable, queryParameters, take_map_queryEntry_iff]
  exact ⟨fun h => ⟨h.1, List.forall_mem_map.mpr h.2⟩,
    fun h => ⟨h.number, List.forall_mem_map.mp h.entries⟩⟩

end Libsqli.Uri
